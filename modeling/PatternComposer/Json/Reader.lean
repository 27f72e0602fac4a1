import PatternComposer.Json.Number

/-! # Reading JSON

The reader takes exactly the standard's texts, with arrays and objects nested at most 127 deep. It
refuses surrogates that are not in pairs and control characters in strings.
-/

namespace PatternComposer.Json

def isBlank (c : Char) : Bool := c == ' ' || c == '\t' || c == '\n' || c == '\r'

def skipBlanks (cs : List Char) : List Char := cs.dropWhile isBlank

def hexDigit? (c : Char) : Option Nat :=
  if '0' ≤ c ∧ c ≤ '9' then some (c.toNat - 48)
  else if 'a' ≤ c ∧ c ≤ 'f' then some (c.toNat - 87)
  else if 'A' ≤ c ∧ c ≤ 'F' then some (c.toNat - 55)
  else none

/-- Reads four hexadecimal digits. -/
def readUnit : List Char → Option (Nat × List Char)
  | a :: b :: c :: d :: rest => do
    let a ← hexDigit? a
    let b ← hexDigit? b
    let c ← hexDigit? c
    let d ← hexDigit? d
    return (4096 * a + 256 * b + 16 * c + d, rest)
  | _ => none

/-- Reads a character from after `\u`. A leading surrogate needs a trailing one after it. -/
def readUnicode (cs : List Char) : Option (Char × List Char) :=
  (readUnit cs).bind fun (unit, rest) =>
    if 0xDC00 ≤ unit ∧ unit ≤ 0xDFFF then none
    else if 0xD800 ≤ unit ∧ unit ≤ 0xDBFF then
      match rest with
      | '\\' :: 'u' :: rest =>
        (readUnit rest).bind fun (trail, rest) =>
          if 0xDC00 ≤ trail ∧ trail ≤ 0xDFFF then
            some (Char.ofNat (0x10000 + 0x400 * (unit - 0xD800) + (trail - 0xDC00)), rest)
          else none
      | _ => none
    else some (Char.ofNat unit, rest)

/-- Reads what follows a backslash in a string. -/
def readEscape : List Char → Option (Char × List Char)
  | '"' :: rest => some ('"', rest)
  | '\\' :: rest => some ('\\', rest)
  | '/' :: rest => some ('/', rest)
  | 'b' :: rest => some ('\x08', rest)
  | 'f' :: rest => some ('\x0C', rest)
  | 'n' :: rest => some ('\n', rest)
  | 'r' :: rest => some ('\r', rest)
  | 't' :: rest => some ('\t', rest)
  | 'u' :: rest => readUnicode rest
  | _ => none

/-- Reads a string from after its opening quote; what was read before comes reversed. -/
def readString : Nat → List Char → List Char → Option (String × List Char)
  | 0, _, _ => none
  | _, _, [] => none
  | fuel + 1, done, c :: rest =>
    if c == '"' then some (String.ofList done.reverse, rest)
    else if c == '\\' then
      (readEscape rest).bind fun (c, rest) => readString fuel (c :: done) rest
    else if c.toNat < 0x20 then none
    else readString fuel (c :: done) rest

/-- The text after a word that it has to begin with. -/
def readWord : List Char → List Char → Option (List Char)
  | [], cs => some cs
  | w :: word, c :: cs => if w == c then readWord word cs else none
  | _ :: _, [] => none

mutual

/-- Reads a value that may hold `depth` levels of arrays and objects. -/
def readValue : Nat → Nat → List Char → Option (Value × List Char)
  | 0, _, _ => none
  | fuel + 1, depth, cs =>
    match skipBlanks cs with
    | [] => none
    | c :: rest =>
      match c with
      | 'n' => (readWord ['u', 'l', 'l'] rest).map fun rest => (.null, rest)
      | 't' => (readWord ['r', 'u', 'e'] rest).map fun rest => (.bool true, rest)
      | 'f' => (readWord ['a', 'l', 's', 'e'] rest).map fun rest => (.bool false, rest)
      | '"' => (readString (rest.length + 1) [] rest).map fun (s, rest) => (.string s, rest)
      | '[' =>
        match depth, skipBlanks rest with
        | 0, _ => none
        | _ + 1, ']' :: rest => some (.array [], rest)
        | depth + 1, rest =>
          (readItems fuel depth [] rest).map fun (items, rest) => (.array items, rest)
      | '\x7b' =>
        match depth, skipBlanks rest with
        | 0, _ => none
        | _ + 1, '\x7d' :: rest => some (.object [], rest)
        | depth + 1, rest =>
          (readMembers fuel depth [] rest).map fun (members, rest) => (.object members, rest)
      | c => readNumber (c :: rest)

/-- Reads array items up to the closing bracket; those read before come reversed. -/
def readItems : Nat → Nat → List Value → List Char → Option (List Value × List Char)
  | 0, _, _, _ => none
  | fuel + 1, depth, done, cs =>
    (readValue fuel depth cs).bind fun (v, rest) =>
      match skipBlanks rest with
      | ',' :: rest => readItems fuel depth (v :: done) rest
      | ']' :: rest => some ((v :: done).reverse, rest)
      | _ => none

/-- Reads object members up to the closing brace; those read before come reversed. -/
def readMembers :
    Nat → Nat → List (String × Value) → List Char → Option (List (String × Value) × List Char)
  | 0, _, _, _ => none
  | fuel + 1, depth, done, cs =>
    match skipBlanks cs with
    | '"' :: rest =>
      (readString (rest.length + 1) [] rest).bind fun (key, rest) =>
        match skipBlanks rest with
        | ':' :: rest =>
          (readValue fuel depth rest).bind fun (v, rest) =>
            match skipBlanks rest with
            | ',' :: rest => readMembers fuel depth ((key, v) :: done) rest
            | '\x7d' :: rest => some (((key, v) :: done).reverse, rest)
            | _ => none
        | _ => none
    | _ => none

end

/-- How deep arrays and objects may nest. -/
def depthLimit : Nat := 127

/-- The value of a JSON text. -/
def parse? (text : String) : Option Value :=
  let cs := text.toList
  (readValue (2 * cs.length + 2) depthLimit cs).bind fun (v, rest) =>
    if (skipBlanks rest).isEmpty then some v else none

end PatternComposer.Json
