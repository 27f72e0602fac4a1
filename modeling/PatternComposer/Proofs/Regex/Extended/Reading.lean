import Mathlib
import PatternComposer.Regex.Extended.Tree

/-! # Reading an extended text into tokens

The counterpart of the plain `Reads`, for a text whose pattern takes `bytes` bytes.
-/

namespace PatternComposer.Regex.Extended

namespace Token

/-- From a scanner on, the text up to a point is read into these tokens. -/
inductive Reads (bytes : Nat) :
    Scanner → List Char → List Token → Scanner → List Char → Prop where
  | done {s cs} : Reads bytes s cs [] s cs
  | token {s cs front token next rest tokens last after} (skipped : skip s.modes cs = some front)
      (read : s.token bytes front = some (token, next, rest)) (shorter : rest.length < cs.length)
      (more : Reads bytes next rest tokens last after) : Reads bytes s cs (token :: tokens) last after

namespace Reads

variable {bytes : Nat} {s next last : Scanner} {cs rest after : List Char} {tokens more : List Token}

theorem append (first : Reads bytes s cs tokens next rest)
    (second : Reads bytes next rest more last after) :
    Reads bytes s cs (tokens ++ more) last after := by
  induction first with
  | done => exact second
  | token skipped read shorter _ ih => exact .token skipped read shorter (ih second)

theorem length_le (reads : Reads bytes s cs tokens last after) :
    tokens.length + after.length ≤ cs.length := by
  induction reads with
  | done => simp
  | token _ _ shorter _ ih => rw [List.length_cons]; omega

theorem scanFrom_eq (reads : Reads bytes s cs tokens last after) (fuel : Nat) (done : List Token) :
    scanFrom bytes (tokens.length + fuel) s done cs =
      scanFrom bytes fuel last (tokens.reverse ++ done) after := by
  induction reads generalizing done with
  | done => simp
  | @token s cs front token next rest tokens last after skipped read shorter more ih =>
    have nonempty : front.isEmpty = false := by
      cases front with
      | nil => cases read
      | cons => rfl
    rw [List.length_cons, Nat.add_right_comm, scanFrom, skipped, Option.bind_some, nonempty]
    simp only [Bool.false_eq_true, ↓reduceIte]
    rw [read, Option.bind_some]
    change scanFrom bytes (tokens.length + fuel) next (token :: done) rest = _
    rw [ih, List.reverse_cons, List.append_assoc, List.singleton_append]

/-- A text that can be read to its end has the tokens that it was read into. -/
theorem scan?_eq (reads : Reads (Text.byteLength cs) .initial cs tokens last [])
    (closed : last.opens = []) : scan? cs = some tokens := by
  have bound := reads.length_le
  obtain ⟨spare, enough⟩ := Nat.exists_eq_add_of_le bound
  rw [List.length_nil, Nat.add_zero] at enough
  rw [scan?, enough, Nat.add_assoc, reads.scanFrom_eq, scanFrom]
  simp [skip, skipSpace, closed]

end Reads
end Token
end PatternComposer.Regex.Extended
