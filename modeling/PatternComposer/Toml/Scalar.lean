import PatternComposer.Decimal.Nearest
import PatternComposer.Toml.Value

/-! # TOML numbers, dates and times

Underscores may stand between the digits of a number. Integers have 64 bits.
-/

namespace PatternComposer.Toml

/-- Reads digits with single underscores between them, without the underscores. `after` says that a
digit came just before. An underscore without a digit after it is an error. -/
def readDigits (isDigit : Char → Bool) (after : Bool) :
    List Char → Option (List Char × List Char)
  | [] => some ([], [])
  | c :: rest =>
    if isDigit c then
      (readDigits isDigit true rest).map fun (digits, rest) => (c :: digits, rest)
    else if c == '_' && after then
      if rest.head?.any isDigit then readDigits isDigit false rest else none
    else some ([], c :: rest)

def digitOf (c : Char) : Nat :=
  if c.isDigit then c.toNat - 48
  else if 'a' ≤ c then c.toNat - 87
  else c.toNat - 55

def natOf (base : Nat) (digits : List Char) : Nat :=
  digits.foldl (fun n c => base * n + digitOf c) 0

/-- The integers with 64 bits. -/
def integerOf? (n : Int) : Option Value :=
  if -0x8000000000000000 ≤ n ∧ n < 0x8000000000000000 then some (.integer n) else none

/-- Reads an integer in another base from after its mark. -/
def readBased (base : Nat) (isDigit : Char → Bool) (cs : List Char) :
    Option (Value × List Char) :=
  (readDigits isDigit false cs).bind fun (digits, rest) =>
    if digits.isEmpty then none
    else (integerOf? (natOf base digits)).map fun v => (v, rest)

def isHexDigit (c : Char) : Bool :=
  c.isDigit || (decide ('a' ≤ c) && decide (c ≤ 'f')) || (decide ('A' ≤ c) && decide (c ≤ 'F'))

def isOctalDigit (c : Char) : Bool := decide ('0' ≤ c) && decide (c ≤ '7')

def isBinaryDigit (c : Char) : Bool := c == '0' || c == '1'

/-- Reads the digits of an integer. A zero stands alone. -/
def readWhole (cs : List Char) : Option (List Char × List Char) :=
  match cs with
  | '0' :: rest => some (['0'], rest)
  | c :: _ => if c.isDigit then readDigits Char.isDigit false cs else none
  | [] => none

/-- Reads digits that may begin with zeros. -/
def readSome (cs : List Char) : Option (List Char × List Char) :=
  (readDigits Char.isDigit false cs).bind fun (digits, rest) =>
    if digits.isEmpty then none else some (digits, rest)

/-- Reads an exponent from after its letter. -/
def readExponent (cs : List Char) : Option (Int × List Char) :=
  let (negative, cs) : Bool × List Char := match cs with
    | '+' :: rest => (false, rest)
    | '-' :: rest => (true, rest)
    | cs => (false, cs)
  (readSome cs).map fun (digits, rest) =>
    let n : Int := natOf 10 digits
    (if negative then -n else n, rest)

/-- A double from its digits and exponent. A positive one beyond the doubles is an error. -/
def floatOf? (negative : Bool) (digits : List Char) (exponent : Int) : Option Value :=
  let x := Decimal.ofDigits (natOf 10 digits) exponent
  if negative then some (.float (-x)) else if x.isInf then none else some (.float x)

/-- Reads an exponent if there is one. -/
def readOptionalExponent (cs : List Char) : Option (Int × List Char) :=
  match cs with
  | 'e' :: rest => readExponent rest
  | 'E' :: rest => readExponent rest
  | cs => some (0, cs)

/-- Reads a number from after its sign. -/
def readUnsigned (negative : Bool) (cs : List Char) : Option (Value × List Char) :=
  match cs with
  | 'i' :: 'n' :: 'f' :: rest =>
    some (.float (if negative then -(1.0 / 0.0) else 1.0 / 0.0), rest)
  | 'n' :: 'a' :: 'n' :: rest => some (.float (0.0 / 0.0), rest)
  | cs =>
    (readWhole cs).bind fun (whole, rest) =>
      match rest with
      | '.' :: rest =>
        (readSome rest).bind fun (fraction, rest) =>
          (readOptionalExponent rest).bind fun (exponent, rest) =>
            (floatOf? negative (whole ++ fraction) (exponent - fraction.length)).map fun v =>
              (v, rest)
      | 'e' :: _ | 'E' :: _ =>
        (readOptionalExponent rest).bind fun (exponent, rest) =>
          (floatOf? negative whole exponent).map fun v => (v, rest)
      | rest =>
        let n : Int := natOf 10 whole
        (integerOf? (if negative then -n else n)).map fun v => (v, rest)

/-- Reads a number. Other bases have no sign. -/
def readNumber (cs : List Char) : Option (Value × List Char) :=
  match cs with
  | '0' :: 'x' :: rest => readBased 16 isHexDigit rest
  | '0' :: 'o' :: rest => readBased 8 isOctalDigit rest
  | '0' :: 'b' :: rest => readBased 2 isBinaryDigit rest
  | '+' :: rest => readUnsigned false rest
  | '-' :: rest => readUnsigned true rest
  | cs => readUnsigned false cs

/-- Reads exactly `count` digits as a number of at most `limit`. -/
def readField (count limit : Nat) (cs : List Char) : Option (Nat × List Char) :=
  let digits := cs.take count
  let n := natOf 10 digits
  if digits.length = count ∧ digits.all Char.isDigit ∧ n ≤ limit then some (n, cs.drop count)
  else none

def readChar (c : Char) : List Char → Option (List Char)
  | d :: rest => if d == c then some rest else none
  | [] => none

/-- Reads a date. -/
def readDate (cs : List Char) : Option (Date × List Char) := do
  let (year, cs) ← readField 4 9999 cs
  let cs ← readChar '-' cs
  let (month, cs) ← readField 2 12 cs
  let cs ← readChar '-' cs
  let (day, cs) ← readField 2 31 cs
  let date : Date := ⟨year, month, day⟩
  if date.isValid then some (date, cs) else none

/-- Reads the fraction of a second in nanoseconds; further digits are cut off. -/
def readFraction (cs : List Char) : Option (Nat × List Char) :=
  match cs with
  | '.' :: rest =>
    let digits := rest.takeWhile Char.isDigit
    if digits.isEmpty then some (0, cs)
    else
      let kept := digits.take 9
      some (natOf 10 kept * Nat.pow 10 (9 - kept.length), rest.drop digits.length)
  | cs => some (0, cs)

/-- Reads a time. A leap second is allowed. -/
def readTime (cs : List Char) : Option (Time × List Char) := do
  let (hour, cs) ← readField 2 23 cs
  let cs ← readChar ':' cs
  let (minute, cs) ← readField 2 59 cs
  let cs ← readChar ':' cs
  let (second, cs) ← readField 2 60 cs
  let (nanosecond, cs) ← readFraction cs
  return (⟨hour, minute, second, nanosecond⟩, cs)

/-- Reads an offset in hours and minutes from after its sign. -/
def readOffsetMinutes (negative : Bool) (cs : List Char) : Option (Offset × List Char) := do
  let (hour, cs) ← readField 2 23 cs
  let cs ← readChar ':' cs
  let (minute, cs) ← readField 2 59 cs
  return (.minutes negative (60 * hour + minute), cs)

/-- Reads an offset if there is one. -/
def readOffset (cs : List Char) : Option (Option Offset × List Char) :=
  match cs with
  | 'Z' :: rest => some (some .universal, rest)
  | 'z' :: rest => some (some .universal, rest)
  | '+' :: rest => (readOffsetMinutes false rest).map fun (offset, rest) => (some offset, rest)
  | '-' :: rest => (readOffsetMinutes true rest).map fun (offset, rest) => (some offset, rest)
  | cs => some (none, cs)

/-- Reads what follows a date: a time behind a `T` or a space, if there is one. -/
def readAfterDate (date : Date) (cs : List Char) : Option (Datetime × List Char) :=
  let timed : Option (Time × List Char) := match cs with
    | c :: rest => if c == 'T' || c == 't' || c == ' ' then readTime rest else none
    | [] => none
  match timed with
  | none => some (.date date, cs)
  | some (time, rest) =>
    (readOffset rest).map fun (offset, rest) => (.both date time offset, rest)

/-- The text begins like a date: with four digits and a hyphen. -/
def looksLikeDate (cs : List Char) : Bool :=
  decide ((cs.takeWhile Char.isDigit).length = 4) && cs[4]? == some '-'

/-- The text begins like a time: with two digits and a colon. -/
def looksLikeTime (cs : List Char) : Bool :=
  decide ((cs.takeWhile Char.isDigit).length = 2) && cs[2]? == some ':'

/-- Reads a date, a time or a number. -/
def readScalar (cs : List Char) : Option (Value × List Char) :=
  if looksLikeDate cs then
    (readDate cs).bind fun (date, rest) =>
      (readAfterDate date rest).map fun (d, rest) => (.datetime d, rest)
  else if looksLikeTime cs then
    (readTime cs).map fun (time, rest) => (.datetime (.time time), rest)
  else readNumber cs

end PatternComposer.Toml
