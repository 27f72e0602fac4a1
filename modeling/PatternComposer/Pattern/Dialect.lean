/-! # Notations that the engine spells differently

A pattern may write the null character as `\0` and, inside a class, the backspace as `\b`. The
engine knows neither, so both are replaced by hexadecimal escapes before it reads the pattern.
A class is taken to begin at an opening bracket outside of one and to end at the next closing
bracket, escaped brackets apart.
-/

namespace PatternComposer.Dialect

/-- A backslash with the character after it, a backslash at the end, or any other character. -/
inductive Item where
  | escape (c : Char)
  | loneBackslash
  | plain (c : Char)
deriving DecidableEq, Repr

/-- The only way to cut a text into items. -/
def items : List Char → List Item
  | [] => []
  | ['\\'] => [.loneBackslash]
  | '\\' :: c :: rest => .escape c :: items rest
  | c :: rest => .plain c :: items rest

/-- Whether a class is open after an item, given whether one was open before it. -/
def openAfter (inClass : Bool) : Item → Bool
  | .plain '[' => true
  | .plain ']' => false
  | _ => inClass

def startsWithDigit : List Char → Bool
  | [] => false
  | c :: _ => c.isDigit

/-- The text that stands for an item, given what follows it and whether a class is open. -/
def image (inClass nextDigit : Bool) : Item → List Char
  | .escape '0' => if nextDigit then ['\\', '0'] else ['\\', 'x', '0', '0']
  | .escape 'b' => if inClass then ['\\', 'x', '0', '8'] else ['\\', 'b']
  | .escape c => ['\\', c]
  | .loneBackslash => ['\\']
  | .plain c => [c]

/-- Spells a pattern for the engine, in one pass. -/
def toEngineFrom (inClass : Bool) : List Char → List Char
  | [] => []
  | ['\\'] => ['\\']
  | '\\' :: c :: rest =>
    if c = '0' then
      if startsWithDigit rest then '\\' :: '0' :: toEngineFrom inClass rest
      else '\\' :: 'x' :: '0' :: '0' :: toEngineFrom inClass rest
    else if c = 'b' ∧ inClass then '\\' :: 'x' :: '0' :: '8' :: toEngineFrom inClass rest
    else '\\' :: c :: toEngineFrom inClass rest
  | c :: rest =>
    if c = '[' ∧ ¬inClass then c :: toEngineFrom true rest
    else if c = ']' ∧ inClass then c :: toEngineFrom false rest
    else c :: toEngineFrom inClass rest

/-- The pattern as the engine reads it. A pattern without a backslash stays as it is. -/
def toEngine (source : List Char) : List Char :=
  if source.contains '\\' then toEngineFrom false source else source

end PatternComposer.Dialect
