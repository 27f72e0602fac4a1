import PatternComposer.Error
import PatternComposer.Flags
import PatternComposer.Pattern.Dialect
import PatternComposer.Regex.Matcher
import PatternComposer.Text.Offsets

/-! # Compiled patterns

A compiled pattern remembers the source and the flags that it was made from. Offsets of a match
are counted in bytes.
-/

namespace PatternComposer

/-- A pattern that the engine accepted. -/
structure Pattern where
  source : String
  flags : Flags
  matcher : Regex.Matcher

/-- A match in a text: its byte offsets, and what the groups that took part captured. -/
structure Match where
  start : Nat
  stop : Nat
  captures : List String
deriving DecidableEq, Repr

namespace Match

def size (m : Match) : Nat := m.stop - m.start

def isEmpty (m : Match) : Bool := m.start == m.stop

/-- The matched part of the text. -/
def text (m : Match) (text : String) : String :=
  String.ofList (Text.slice text.toList m.start m.stop)

end Match

namespace Pattern

/-- The flags in front of the engine's pattern text, in the order in which they were given. -/
def inlineFlags (flags : Flags) : List Char :=
  match flags.toList.filter Flags.inline.contains with
  | [] => []
  | inline => '(' :: '?' :: inline ++ [')']

/-- The text that the engine reads. -/
def engineText (source : String) (flags : Flags) : List Char :=
  inlineFlags flags ++ Dialect.toEngine source.toList

/-- Compiles a pattern text. -/
def compile (source : String) (flags : Flags) : Except Error Pattern :=
  match flags.firstUnsupported? with
  | some flag => .error (.invalidFlag flag)
  | none =>
    match Regex.Matcher.ofText? (engineText source flags) with
    | some matcher => .ok ⟨source, flags, matcher⟩
    | none => .error (.engine .refused)

/-- What was compiled is what a pattern remembers, and the engine accepted its spelling. -/
theorem compile_eq_ok {source : String} {flags : Flags} {p : Pattern}
    (compiled : compile source flags = .ok p) :
    p.source = source ∧ p.flags = flags ∧
      Regex.Matcher.ofText? (engineText source flags) = some p.matcher := by
  rw [compile] at compiled
  split at compiled
  · cases compiled
  · split at compiled
    · next matcher accepted => cases compiled; exact ⟨rfl, rfl, accepted⟩
    · cases compiled

def isGlobal (p : Pattern) : Bool := p.flags.contains Flags.global

def isSticky (p : Pattern) : Bool := p.flags.contains Flags.sticky

/-- The pattern needed the backtracking search. -/
def isBacktracking (p : Pattern) : Bool := p.matcher.isBacktracking

/-- The pattern between slashes, with its flags. -/
protected def toString (p : Pattern) : String :=
  "/" ++ p.source ++ "/" ++ p.flags.toString

instance : ToString Pattern := ⟨Pattern.toString⟩

/-- A match of the engine, counted in bytes. -/
def toMatch (cs : List Char) (span : Regex.Span) : Match where
  start := Text.byteOffset cs span.start
  stop := Text.byteOffset cs span.stop
  captures := span.groups.map fun (start, stop) =>
    String.ofList ((cs.take stop).drop start)

/-- The first match from a byte offset on. What stands before the offset can still be looked
at. -/
def findAt (p : Pattern) (text : String) (pos : Nat) : Except Error (Option Match) :=
  let cs := text.toList
  match p.matcher.find cs.toArray (Text.charIndex cs pos) with
  | some span => .ok (span.map (toMatch cs))
  | none => .error (.engine .gaveUp)

/-- The first match. A sticky pattern only matches at the start of the text. -/
def find (p : Pattern) (text : String) : Except Error (Option Match) :=
  (p.findAt text 0).map fun found => found.filter fun m => !p.isSticky || m.start == 0

def isMatch (p : Pattern) (text : String) : Except Error Bool :=
  (p.find text).map Option.isSome

/-- What the groups of the first match captured. -/
def captures (p : Pattern) (text : String) : Except Error (List String) :=
  (p.find text).map fun found => (found.map (·.captures)).getD []

end Pattern
end PatternComposer
