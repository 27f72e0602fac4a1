import Mathlib
import PatternComposer.Regex.Tree

/-! # Reading a text into tokens

`Token.Reads` follows the reader of the plain dialect through a part of a text, without its bound
on the number of tokens. Parts that follow each other can be read one after the other
(`Reads.append`), and a text that is read to its end has these tokens (`Reads.scan?_eq`).
-/

namespace PatternComposer.Regex

namespace Token

/-- From a scanner on, the text up to a point is read into these tokens. -/
inductive Reads : Scanner → List Char → List Token → Scanner → List Char → Prop where
  | done {s cs} : Reads s cs [] s cs
  | token {s cs token next rest tokens last after}
      (read : s.token (s.modes.skip cs) = some (token, next, rest)) (shorter : rest.length < cs.length)
      (more : Reads next rest tokens last after) : Reads s cs (token :: tokens) last after

namespace Reads

variable {s next last : Scanner} {cs rest after : List Char} {tokens more : List Token}

theorem append (first : Reads s cs tokens next rest) (second : Reads next rest more last after) :
    Reads s cs (tokens ++ more) last after := by
  induction first with
  | done => exact second
  | token read shorter _ ih => exact .token read shorter (ih second)

theorem length_le (reads : Reads s cs tokens last after) : tokens.length + after.length ≤ cs.length := by
  induction reads with
  | done => simp
  | token _ shorter _ ih => rw [List.length_cons]; omega

theorem scanFrom_eq (reads : Reads s cs tokens last after) (fuel : Nat) (done : List Token) :
    scanFrom (tokens.length + fuel) s done cs = scanFrom fuel last (tokens.reverse ++ done) after := by
  induction reads generalizing done with
  | done => simp
  | @token s cs token next rest tokens last after read shorter more ih =>
    have nonempty : s.modes.skip cs ≠ [] := by
      intro empty
      rw [empty] at read
      cases read
    rw [List.length_cons, Nat.add_right_comm, scanFrom]
    split
    · next empty => exact absurd empty nonempty
    · rw [read, Option.bind_some]
      change scanFrom (tokens.length + fuel) next (token :: done) rest = _
      rw [ih, List.reverse_cons, List.append_assoc, List.singleton_append]

/-- A text that can be read to its end has the tokens that it was read into. -/
theorem scan?_eq (reads : Reads .initial cs tokens last []) (closed : last.saved = []) :
    scan? cs = some tokens := by
  have bound := reads.length_le
  obtain ⟨spare, enough⟩ := Nat.exists_eq_add_of_le bound
  rw [List.length_nil, Nat.add_zero] at enough
  rw [scan?, enough, Nat.add_assoc, reads.scanFrom_eq, scanFrom]
  simp [closed]

/-- A text that cannot be read on from a point before its end has no tokens. -/
theorem scan?_eq_none (reads : Reads .initial cs tokens last after) (more : last.modes.skip after ≠ [])
    (refused : last.token (last.modes.skip after) = none) : scan? cs = none := by
  obtain ⟨spare, enough⟩ := Nat.exists_eq_add_of_le reads.length_le
  rw [scan?, enough, Nat.add_assoc, Nat.add_assoc, reads.scanFrom_eq, ← Nat.add_assoc, scanFrom]
  split
  · next ended => exact absurd ended more
  · rw [refused]
    rfl

end Reads
end Token
end PatternComposer.Regex
