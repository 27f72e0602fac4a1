import PatternComposer.Regex.Look
import PatternComposer.Regex.Modes
import PatternComposer.Unicode.CaseFold
import PatternComposer.Unicode.Property

/-! # Escapes

What a backslash and the characters after it stand for: one character, a set of characters or an
assertion. References to groups and unknown letters are refused.
-/

namespace PatternComposer.Regex

inductive Escape where
  | char (c : Char)
  | members (s : CharSet)
  | look (l : Look)
deriving Repr

def notWord : CharSet := Unicode.word.complement
def notDigit : CharSet := Unicode.digit.complement
def notBlank : CharSet := Unicode.blank.complement
def asciiDigit : CharSet := .range 0x30 0x39
def asciiBlank : CharSet := ⟨[(0x9, 0xD), (0x20, 0x20)]⟩

/-- Digits, blanks and word characters by their letter; a capital stands for all the others,
which without Unicode would take in parts of characters. -/
def letterSet? (unicode : Bool) : Char → Option CharSet
  | 'd' => some (if unicode then Unicode.digit else asciiDigit)
  | 's' => some (if unicode then Unicode.blank else asciiBlank)
  | 'w' => some (if unicode then Unicode.word else asciiWord)
  | 'D' => if unicode then some notDigit else none
  | 'S' => if unicode then some notBlank else none
  | 'W' => if unicode then some notWord else none
  | _ => none

def hexValue? (c : Char) : Option Nat :=
  if '0' ≤ c ∧ c ≤ '9' then some (c.toNat - 48)
  else if 'a' ≤ c ∧ c ≤ 'f' then some (c.toNat - 87)
  else if 'A' ≤ c ∧ c ≤ 'F' then some (c.toNat - 55)
  else none

/-- The character with a code, if there is one. -/
def charOfCode? (code : Nat) : Option Char :=
  if code.isValidChar then some (Char.ofNat code) else none

namespace Modes

/-- Reads exactly `count` hexadecimal digits. -/
def readHexRun (modes : Modes) : Nat → Nat → List Char → Option (Nat × List Char)
  | 0, value, cs => some (value, cs)
  | _ + 1, _, [] => none
  | count + 1, value, c :: rest =>
    (hexValue? c).bind fun digit => readHexRun modes count (16 * value + digit) (modes.skip rest)

/-- Reads hexadecimal digits up to a closing brace. -/
def readHexBraced (modes : Modes) : Nat → Option Nat → List Char → Option (Nat × List Char)
  | 0, _, _ => none
  | _, _, [] => none
  | fuel + 1, value, c :: rest =>
    if c == '}' then value.map fun value => (value, modes.skip rest)
    else (hexValue? c).bind fun digit =>
      readHexBraced modes fuel (some (16 * value.getD 0 + digit)) (modes.skip rest)

/-- A character given by `digits` hexadecimal digits or by digits in braces. Without Unicode, two
digits beyond ASCII would be part of a character. -/
def readHex (modes : Modes) (digits : Nat) (cs : List Char) : Option (Char × List Char) :=
  match modes.skip cs with
  | [] => none
  | '{' :: rest =>
    (readHexBraced modes rest.length none (modes.skip rest)).bind fun (code, rest) =>
      (charOfCode? code).map fun c => (c, rest)
  | cs =>
    (readHexRun modes digits 0 cs).bind fun (code, rest) =>
      if digits = 2 ∧ ¬modes.unicode ∧ 0x80 ≤ code then none
      else (charOfCode? code).map fun c => (c, rest)

/-- The text up to a closing brace and the text after the brace. -/
def readBraced (modes : Modes) : Nat → List Char → List Char → Option (List Char × List Char)
  | 0, _, _ => none
  | _, _, [] => none
  | fuel + 1, name, c :: rest =>
    if c == '}' then some (name.reverse, rest)
    else readBraced modes fuel (c :: name) (modes.skip rest)

end Modes

/-- A list cut at the first occurrence of `mark`. -/
def splitAtMark (mark : List Char) : List Char → Option (List Char × List Char)
  | [] => none
  | c :: rest =>
    if mark.isPrefixOf (c :: rest) then some ([], (c :: rest).drop mark.length)
    else (splitAtMark mark rest).map fun (before, after) => (c :: before, after)

/-- The set that a name in a property escape stands for, and whether the name itself asks for the
complement. -/
def propertySet? (name : List Char) : Option (CharSet × Bool) :=
  match splitAtMark ['!', '='] name with
  | some (property, value) => (Unicode.valued? property value).map fun s => (s, true)
  | none =>
    match splitAtMark [':'] name <|> splitAtMark ['='] name with
    | some (property, value) => (Unicode.valued? property value).map fun s => (s, false)
    | none => (Unicode.named? name).map fun s => (s, false)

namespace Modes

/-- A property escape, after its letter. -/
def readProperty (modes : Modes) (negated : Bool) (cs : List Char) :
    Option (CharSet × List Char) :=
  if !modes.unicode then none
  else
    let named : Option (List Char × List Char) :=
      match modes.skip cs with
      | [] => none
      | '{' :: rest => modes.readBraced rest.length [] (modes.skip rest)
      | c :: rest => if c == '\\' then none else some ([c], modes.skip rest)
    named.bind fun (name, rest) =>
      (propertySet? name).map fun (s, inverse) =>
        let s := if modes.caseless then s.foldCase else s
        (if negated != inverse then s.complement else s, rest)

end Modes

/-- The word edge that a name in braces stands for. -/
def wordEdge? (name : List Char) : Option WordEdge :=
  if name == "start".toList then some .start
  else if name == "end".toList then some .stop
  else if name == "start-half".toList then some .startHalf
  else if name == "end-half".toList then some .stopHalf
  else none

def isEdgeNameChar (c : Char) : Bool := c.isAlpha || c == '-'

namespace Modes

/-- Reads the name of a word edge up to its closing brace. -/
def readEdgeName (modes : Modes) : Nat → List Char → List Char → Option (WordEdge × List Char)
  | 0, _, _ => none
  | _, _, [] => none
  | fuel + 1, name, c :: rest =>
    if c == '}' then (wordEdge? name.reverse).map fun edge => (edge, rest)
    else if isEdgeNameChar c then readEdgeName modes fuel (c :: name) (modes.skip rest)
    else none

/-- A word boundary, after its letter. A brace begins the name of an edge if a letter or a hyphen
follows it; otherwise it is left for a repetition. -/
def readBoundary (modes : Modes) (cs : List Char) : Option (Escape × List Char) :=
  let plain : Escape := .look (.word .boundary !modes.unicode)
  match cs with
  | '{' :: rest =>
    match modes.skip rest with
    | [] => none
    | c :: more =>
      if isEdgeNameChar c then
        (modes.readEdgeName (more.length + 1) [] (c :: more)).map fun (edge, rest) =>
          (.look (.word edge !modes.unicode), rest)
      else some (plain, cs)
  | _ => some (plain, cs)

end Modes

/-- Characters that a backslash makes literal: ASCII ones that are neither letters nor digits nor
angle brackets. -/
def isEscapable (c : Char) : Bool :=
  decide (c.toNat < 128) && !c.isAlphanum && c != '<' && c != '>'

/-- Characters with an escape letter of their own. -/
def controlEscape? : Char → Option Char
  | 'a' => some '\x07'
  | 'f' => some '\x0C'
  | 't' => some '\t'
  | 'n' => some '\n'
  | 'r' => some '\r'
  | 'v' => some '\x0B'
  | _ => none

/-- Reads what follows a backslash. -/
def readEscape (modes : Modes) : List Char → Option (Escape × List Char)
  | [] => none
  | c :: rest =>
    match c with
    | 'x' => (modes.readHex 2 rest).map fun (c, rest) => (.char c, rest)
    | 'u' => (modes.readHex 4 rest).map fun (c, rest) => (.char c, rest)
    | 'U' => (modes.readHex 8 rest).map fun (c, rest) => (.char c, rest)
    | 'p' => (modes.readProperty false rest).map fun (s, rest) => (.members s, rest)
    | 'P' => (modes.readProperty true rest).map fun (s, rest) => (.members s, rest)
    | 'A' => some (.look .textStart, rest)
    | 'z' => some (.look .textEnd, rest)
    | 'b' => modes.readBoundary rest
    | 'B' => some (.look (.word .inside !modes.unicode), rest)
    | '<' => some (.look (.word .start !modes.unicode), rest)
    | '>' => some (.look (.word .stop !modes.unicode), rest)
    | c =>
      match letterSet? modes.unicode c with
      | some s => some (.members s, rest)
      | none =>
        if isEscapable c then some (.char c, rest)
        else (controlEscape? c).map fun c => (.char c, rest)

end PatternComposer.Regex
