/-! # Escaping literal text

Certain characters of literal text get a backslash in front, so that a pattern takes them as
themselves; all others, brackets, braces, bars and backslashes among them, are copied.
-/

namespace PatternComposer.Text

/-- The characters that are escaped. -/
def escapedChars : List Char := ['(', ')', '/', '.', '*', '?', '+', '$', '^', '=', '!']

def isEscaped (c : Char) : Bool := escapedChars.contains c

/-- The text with a backslash in front of each escaped character. -/
def escape : List Char → List Char
  | [] => []
  | c :: rest => if isEscaped c then '\\' :: c :: escape rest else c :: escape rest

def escapeString (s : String) : String := String.ofList (escape s.toList)

/-- The text without the backslashes that stand directly in front of escaped characters. -/
def unescape : List Char → List Char
  | [] => []
  | [c] => [c]
  | c :: d :: rest =>
    if c = '\\' ∧ isEscaped d then unescape (d :: rest) else c :: unescape (d :: rest)

theorem isEscaped_iff (c : Char) :
    isEscaped c ↔ c = '(' ∨ c = ')' ∨ c = '/' ∨ c = '.' ∨ c = '*' ∨ c = '?' ∨ c = '+' ∨ c = '$' ∨
      c = '^' ∨ c = '=' ∨ c = '!' := by
  simp [isEscaped, escapedChars]

theorem escape_append (s t : List Char) : escape (s ++ t) = escape s ++ escape t := by
  induction s with
  | nil => rfl
  | cons c rest ih => by_cases h : isEscaped c <;> simp [escape, h, ih]

end PatternComposer.Text
