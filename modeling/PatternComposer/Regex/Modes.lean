import PatternComposer.Unicode.Blank

/-! # Modes

Inline flags switch modes for the rest of the group that they stand in. In verbose mode blanks
and comments between the parts of a pattern are left out.
-/

namespace PatternComposer.Regex

structure Modes where
  caseless : Bool
  multiLine : Bool
  dotAll : Bool
  swapGreed : Bool
  unicode : Bool
  crlf : Bool
  verbose : Bool
deriving DecidableEq, Repr

namespace Modes

def initial : Modes := ⟨false, false, false, false, true, false, false⟩

/-- The modes with the mode of a flag letter switched. -/
def switch? (modes : Modes) (flag : Char) (on : Bool) : Option Modes :=
  match flag with
  | 'i' => some { modes with caseless := on }
  | 'm' => some { modes with multiLine := on }
  | 's' => some { modes with dotAll := on }
  | 'U' => some { modes with swapGreed := on }
  | 'u' => some { modes with unicode := on }
  | 'R' => some { modes with crlf := on }
  | 'x' => some { modes with verbose := on }
  | _ => none

end Modes

/-- The text after the blanks and comments in front of it. -/
def skipBlanks (inComment : Bool) : List Char → List Char
  | [] => []
  | c :: rest =>
    if inComment then skipBlanks (c != '\n') rest
    else if Unicode.blank.contains c then skipBlanks false rest
    else if c == '#' then skipBlanks true rest
    else c :: rest

/-- The text from where the next part of the pattern can begin. -/
def Modes.skip (modes : Modes) (cs : List Char) : List Char :=
  if modes.verbose then skipBlanks false cs else cs

@[simp] theorem Modes.skip_nil (modes : Modes) : modes.skip [] = [] := by
  rw [skip]
  split <;> rfl

/-- What the flags of a group set: the modes, whether the group goes on after a colon, whether
there was a flag at all, and the text after the flags. -/
structure FlagGroup where
  modes : Modes
  opens : Bool
  rest : List Char

/-- Reads flags up to the closing parenthesis or the colon. Each flag may occur once, one hyphen
turns the flags after it off, and it may not come last. -/
def readFlags (modes : Modes) (seen : List Char) (negated : Bool) (dangling : Bool) :
    List Char → Option FlagGroup
  | [] => none
  | c :: rest =>
    if c == ':' then if dangling then none else some ⟨modes, true, rest⟩
    else if c == ')' then
      if dangling || (seen.isEmpty && !negated) then none else some ⟨modes, false, rest⟩
    else if c == '-' then if negated then none else readFlags modes seen true true rest
    else if seen.contains c then none
    else (modes.switch? c !negated).bind fun modes =>
      readFlags modes (c :: seen) negated false rest

end PatternComposer.Regex
