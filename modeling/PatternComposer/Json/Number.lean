import PatternComposer.Decimal.Nearest
import PatternComposer.Json.Value

/-! # JSON numbers

Digits are gathered in a 64-bit significand; those that no longer fit only count towards the
exponent, or are dropped behind the point. A number with a point, an exponent or too many digits is
a double: the significand, scaled by one power of ten.
-/

namespace PatternComposer.Json

/-- The largest significand. -/
def significandLimit : Nat := 0xFFFFFFFFFFFFFFFF

/-- The largest exponent that can be written out. -/
def exponentLimit : Nat := 0x7FFFFFFF

def powerOfTen (n : Nat) : Float := Decimal.ofDigits 1 n

/-- A significand scaled by `10 ^ exponent`, or nothing if that is beyond the doubles. Steps of
`10 ^ -308` come first when the exponent is less than that. -/
def scale (significand : Float) (exponent : Int) : Nat → Option Float
  | 0 => none
  | fuel + 1 =>
    if exponent.natAbs ≤ 308 then
      if 0 ≤ exponent then
        let x := significand * powerOfTen exponent.natAbs
        if x.isInf then none else some x
      else some (significand / powerOfTen exponent.natAbs)
    else if significand == 0 then some significand
    else if 0 ≤ exponent then none
    else scale (significand / powerOfTen 308) (exponent + 308) fuel

/-- The double of a sign, a significand and an exponent. -/
def double (negative : Bool) (significand : Nat) (exponent : Int) : Option Value :=
  (scale significand.toUInt64.toFloat exponent (exponent.natAbs / 308 + 2)).map fun x =>
    .float (if negative then -x else x)

/-- The exponent clipped to the range in which it is counted. -/
def clipExponent (exponent : Int) : Int :=
  max (-(exponentLimit : Int) - 1) (min exponentLimit exponent)

def digitValue (c : Char) : Nat := c.toNat - 48

/-- Reads an exponent from after its letter. -/
def readExponent (negative : Bool) (significand : Nat) (start : Int) (cs : List Char) :
    Option (Value × List Char) :=
  let (down, cs) : Bool × List Char := match cs with
    | '+' :: rest => (false, rest)
    | '-' :: rest => (true, rest)
    | cs => (false, cs)
  let digits := cs.takeWhile Char.isDigit
  let rest := cs.drop digits.length
  let exponent := digits.foldl (fun n c => 10 * n + digitValue c) 0
  if digits.isEmpty then none
  else if exponentLimit < exponent then
    if significand ≠ 0 ∧ ¬down then none
    else some (.float (if negative then -0.0 else 0.0), rest)
  else
    let exponent : Int := if down then start - exponent else start + exponent
    (double negative significand (clipExponent exponent)).map fun v => (v, rest)

/-- Goes on after the digits of a double: an exponent may follow. -/
def finishDouble (negative : Bool) (significand : Nat) (exponent : Int) (cs : List Char) :
    Option (Value × List Char) :=
  match cs with
  | 'e' :: rest => readExponent negative significand exponent rest
  | 'E' :: rest => readExponent negative significand exponent rest
  | cs => (double negative significand exponent).map fun v => (v, cs)

/-- Adds the digits behind the point to a significand, until one no longer fits. Each lowers the
exponent by one. -/
def addFraction (significand : Nat) (exponent : Int) : List Char → Nat × Int
  | [] => (significand, exponent)
  | c :: rest =>
    if significandLimit < 10 * significand + digitValue c then (significand, exponent)
    else addFraction (10 * significand + digitValue c) (exponent - 1) rest

/-- Reads a fraction from after the point. -/
def readFraction (negative : Bool) (significand : Nat) (exponent : Int) (cs : List Char) :
    Option (Value × List Char) :=
  let digits := cs.takeWhile Char.isDigit
  if digits.isEmpty then none
  else
    let (significand, exponent) := addFraction significand exponent digits
    finishDouble negative significand exponent (cs.drop digits.length)

/-- Adds digits in front of the point to a significand, and counts those that no longer fit. -/
def addDigits (significand : Nat) : List Char → Nat × Nat
  | [] => (significand, 0)
  | c :: rest =>
    if significandLimit < 10 * significand + digitValue c then (significand, rest.length + 1)
    else addDigits (10 * significand + digitValue c) rest

/-- The value of an integer. A negative zero and integers below 64 bits are doubles. -/
def integer (negative : Bool) (significand : Nat) : Value :=
  if negative then
    if significand = 0 ∨ 0x8000000000000000 < significand then .float (-(significand.toUInt64.toFloat))
    else .int (-significand)
  else .int significand

/-- Reads a number from after its sign. It has no leading zeros. -/
def readUnsigned (negative : Bool) (cs : List Char) : Option (Value × List Char) :=
  let digits := cs.takeWhile Char.isDigit
  let rest := cs.drop digits.length
  let leadingZero := digits.head? == some '0' && decide (1 < digits.length)
  if digits.isEmpty || leadingZero then none
  else
    let (significand, beyond) := addDigits 0 digits
    match rest with
    | '.' :: rest => readFraction negative significand beyond rest
    | 'e' :: _ => finishDouble negative significand beyond rest
    | 'E' :: _ => finishDouble negative significand beyond rest
    | rest =>
      if beyond = 0 then some (integer negative significand, rest)
      else finishDouble negative significand beyond rest

def readNumber : List Char → Option (Value × List Char)
  | '-' :: rest => readUnsigned true rest
  | cs => readUnsigned false cs

end PatternComposer.Json
