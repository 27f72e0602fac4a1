import PatternComposer.Unicode.Word

/-! # Assertions

An assertion looks at the characters on both sides of a position and consumes nothing.
-/

namespace PatternComposer.Regex

/-- What a word assertion asks of the two sides of a position. -/
inductive WordEdge where
  | boundary
  | inside
  | start
  | stop
  | startHalf
  | stopHalf
deriving DecidableEq, Repr

/-- A condition on a position. `crlf` makes carriage return, line feed and their pair line ends;
`ascii` limits word characters to ASCII. -/
inductive Look where
  | textStart
  | textEnd
  | lineStart (crlf : Bool)
  | lineEnd (crlf : Bool)
  | word (edge : WordEdge) (ascii : Bool)
deriving DecidableEq, Repr

def asciiWord : CharSet := ⟨[(0x30, 0x39), (0x41, 0x5A), (0x5F, 0x5F), (0x61, 0x7A)]⟩

def isWordChar (ascii : Bool) (c : Char) : Bool :=
  if ascii then asciiWord.contains c else Unicode.word.contains c

/-- The character before the position, if there is one. -/
def charBefore (text : Array Char) (pos : Nat) : Option Char :=
  if pos = 0 then none else text[pos - 1]?

namespace WordEdge

/-- Whether the edge is met, given that a word character stands before and after it. -/
def holds (edge : WordEdge) (before after : Bool) : Bool :=
  match edge with
  | .boundary => before != after
  | .inside => before == after
  | .start => !before && after
  | .stop => before && !after
  | .startHalf => !before
  | .stopHalf => !after

end WordEdge

namespace Look

def holds (look : Look) (text : Array Char) (pos : Nat) : Bool :=
  let before := charBefore text pos
  let after := text[pos]?
  match look with
  | .textStart => before.isNone
  | .textEnd => after.isNone
  | .lineStart false => before.all (· == '\n')
  | .lineEnd false => after.all (· == '\n')
  | .lineStart true => before.all fun c => c == '\n' || (c == '\r' && after != some '\n')
  | .lineEnd true => after.all fun c => c == '\r' || (c == '\n' && before != some '\r')
  | .word edge ascii => edge.holds (before.any (isWordChar ascii)) (after.any (isWordChar ascii))

end Look
end PatternComposer.Regex
