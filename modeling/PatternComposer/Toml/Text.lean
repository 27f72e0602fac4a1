/-! # TOML strings and comments

Strings in double quotes have escapes, strings in single quotes have none. With three quotes they
may span lines; a line end in them is always read as a line feed.
-/

namespace PatternComposer.Toml

def isSpace (c : Char) : Bool := c == ' ' || c == '\t'

def skipSpaces (cs : List Char) : List Char := cs.dropWhile isSpace

/-- Characters that may stand in a comment or, quotes and backslashes apart, in a string. -/
def isTextChar (c : Char) : Bool :=
  c == '\t' || (decide (0x20 ≤ c.toNat) && c.toNat != 0x7F)

/-- The text after a line end. -/
def newline? : List Char → Option (List Char)
  | '\n' :: rest => some rest
  | '\r' :: '\n' :: rest => some rest
  | _ => none

/-- The text after a line end, or the end of the text itself. -/
def lineEnd? : List Char → Option (List Char)
  | [] => some []
  | cs => newline? cs

/-- The text after a comment, if one begins here. -/
def skipComment : List Char → List Char
  | '#' :: rest => rest.dropWhile isTextChar
  | cs => cs

/-- What may follow a value on its line: spaces and a comment. -/
def lineRest? (cs : List Char) : Option (List Char) := lineEnd? (skipComment (skipSpaces cs))

/-- The text after spaces, line ends and comments. -/
def skipLayout : Nat → List Char → List Char
  | 0, cs => cs
  | fuel + 1, cs =>
    match cs with
    | [] => []
    | c :: rest =>
      if isSpace c then skipLayout fuel rest
      else if c == '#' then skipLayout fuel (rest.dropWhile isTextChar)
      else
        match newline? (c :: rest) with
        | some rest => skipLayout fuel rest
        | none => c :: rest

def hexDigit? (c : Char) : Option Nat :=
  if '0' ≤ c ∧ c ≤ '9' then some (c.toNat - 48)
  else if 'a' ≤ c ∧ c ≤ 'f' then some (c.toNat - 87)
  else if 'A' ≤ c ∧ c ≤ 'F' then some (c.toNat - 55)
  else none

/-- Reads a character given by exactly `digits` hexadecimal digits. -/
def readCode (digits : Nat) (cs : List Char) : Option (Char × List Char) :=
  ((cs.take digits).mapM hexDigit?).bind fun values =>
    let code := values.foldl (fun n d => 16 * n + d) 0
    if values.length = digits ∧ code.isValidChar then some (Char.ofNat code, cs.drop digits)
    else none

/-- Reads what follows a backslash. -/
def readEscape : List Char → Option (Char × List Char)
  | 'b' :: rest => some ('\x08', rest)
  | 'f' :: rest => some ('\x0C', rest)
  | 'n' :: rest => some ('\n', rest)
  | 'r' :: rest => some ('\r', rest)
  | 't' :: rest => some ('\t', rest)
  | '"' :: rest => some ('"', rest)
  | '\\' :: rest => some ('\\', rest)
  | 'u' :: rest => readCode 4 rest
  | 'U' :: rest => readCode 8 rest
  | _ => none

/-- Reads a string on one line from after its opening quote; `done` is reversed. -/
def readLine (quote : Char) : Nat → List Char → List Char → Option (String × List Char)
  | 0, _, _ => none
  | _, _, [] => none
  | fuel + 1, done, c :: rest =>
    if c == quote then some (String.ofList done.reverse, rest)
    else if quote == '"' && c == '\\' then
      (readEscape rest).bind fun (c, rest) => readLine quote fuel (c :: done) rest
    else if isTextChar c then readLine quote fuel (c :: done) rest
    else none

/-- The text after blanks and line ends, as they follow a backslash at the end of a line. -/
def skipBlankLines : Nat → List Char → List Char
  | 0, cs => cs
  | fuel + 1, cs =>
    let cs := skipSpaces cs
    match newline? cs with
    | some rest => skipBlankLines fuel rest
    | none => cs

/-- Reads a string over several lines from after its opening quotes; `done` is reversed. Up to two
quotes may stand together in it, also in front of the closing ones. -/
def readLines (quote : Char) : Nat → List Char → List Char → Option (String × List Char)
  | 0, _, _ => none
  | _, _, [] => none
  | fuel + 1, done, c :: rest =>
    if c == quote then
      let run := ((c :: rest).takeWhile (· == quote)).length
      let after := (c :: rest).drop run
      if run ≤ 2 then readLines quote fuel (List.replicate run quote ++ done) after
      else if run ≤ 5 then
        some (String.ofList (List.replicate (run - 3) quote ++ done).reverse, after)
      else none
    else if quote == '"' && c == '\\' then
      match newline? (skipSpaces rest) with
      | some rest => readLines quote fuel done (skipBlankLines fuel rest)
      | none => (readEscape rest).bind fun (c, rest) => readLines quote fuel (c :: done) rest
    else
      match newline? (c :: rest) with
      | some rest => readLines quote fuel ('\n' :: done) rest
      | none => if isTextChar c then readLines quote fuel (c :: done) rest else none

/-- A line end directly after the opening quotes is no part of the string. -/
def dropFirstNewline (cs : List Char) : List Char := (newline? cs).getD cs

/-- Reads a string of any kind. -/
def readString (cs : List Char) : Option (String × List Char) :=
  match cs with
  | '"' :: '"' :: '"' :: rest => readLines '"' (rest.length + 1) [] (dropFirstNewline rest)
  | '\'' :: '\'' :: '\'' :: rest => readLines '\'' (rest.length + 1) [] (dropFirstNewline rest)
  | '"' :: rest => readLine '"' (rest.length + 1) [] rest
  | '\'' :: rest => readLine '\'' (rest.length + 1) [] rest
  | _ => none

/-- Characters of keys without quotes. -/
def isKeyChar (c : Char) : Bool := c.isAlphanum || c == '-' || c == '_'

/-- Reads one part of a key. Its quotes are on one line. -/
def readKeyPart (cs : List Char) : Option (String × List Char) :=
  match cs with
  | '"' :: rest => readLine '"' (rest.length + 1) [] rest
  | '\'' :: rest => readLine '\'' (rest.length + 1) [] rest
  | cs =>
    let name := cs.takeWhile isKeyChar
    if name.isEmpty then none else some (String.ofList name, cs.drop name.length)

/-- Reads the parts of a dotted key with spaces around them; `done` is reversed. -/
def readKeyParts : Nat → List String → List Char → Option (List String × List Char)
  | 0, _, _ => none
  | fuel + 1, done, cs =>
    (readKeyPart (skipSpaces cs)).bind fun (part, rest) =>
      match skipSpaces rest with
      | '.' :: rest => readKeyParts fuel (part :: done) rest
      | rest => some ((part :: done).reverse, rest)

/-- Keys have fewer parts than this, and values nest less deep. -/
def nestLimit : Nat := 80

/-- Reads a dotted key: the parts in front and the last one. -/
def readKey (cs : List Char) : Option ((List String × String) × List Char) :=
  (readKeyParts (cs.length + 1) [] cs).bind fun (parts, rest) =>
    if nestLimit ≤ parts.length then none
    else parts.getLast?.map fun last => ((parts.dropLast, last), rest)

end PatternComposer.Toml
