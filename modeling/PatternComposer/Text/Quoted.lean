import PatternComposer.Unicode.Derived

/-! # Quoted text

A text between double quotes in which every character can be seen: quotes, backslashes and control
characters are escaped, and so is whatever does not print or would combine with the character
before it.
-/

namespace PatternComposer.Text

/-- Characters without a shape of their own. The plain space counts as having one. -/
def isInvisible (c : Char) : Bool :=
  c != ' ' &&
    (Unicode.other.contains c || Unicode.separator.contains c || Unicode.graphemeExtend.contains c)

/-- A number in lower case hexadecimal digits. -/
def hexText (n : Nat) : List Char := Nat.toDigits 16 n

/-- A character as it stands between quotes. -/
def quotedChar (c : Char) : List Char :=
  match c with
  | '"' => ['\\', '"']
  | '\\' => ['\\', '\\']
  | '\n' => ['\\', 'n']
  | '\r' => ['\\', 'r']
  | '\t' => ['\\', 't']
  | '\x00' => ['\\', '0']
  | c =>
    if c.toNat < 0x7F ∧ 0x20 ≤ c.toNat then [c]
    else if isInvisible c then ['\\', 'u', '\x7b'] ++ hexText c.toNat ++ ['\x7d']
    else [c]

def quoted (s : String) : String :=
  String.ofList (('"' :: s.toList.flatMap quotedChar) ++ ['"'])

end PatternComposer.Text
