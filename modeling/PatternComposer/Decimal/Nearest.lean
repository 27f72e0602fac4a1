/-! # The nearest double

A quotient of natural numbers is rounded to the nearest double, a tie to the even one. Everything
up to the bit pattern is exact integer arithmetic.
-/

namespace PatternComposer.Decimal

/-- The quotient `num / den` rounded to a natural number, a tie to the even one. -/
def roundQuotient (num den : Nat) : Nat :=
  let q := num / den
  let twice := 2 * (num % den)
  if den < twice ∨ (twice = den ∧ q % 2 = 1) then q + 1 else q

/-- The exponent of the last bit of the doubles around `num / den`. -/
def lastBit (num den : Nat) : Int :=
  let guess : Int := (num.log2 : Int) - den.log2
  let exact : Bool :=
    if 0 ≤ guess then decide (den <<< guess.toNat ≤ num)
    else decide (den ≤ num <<< (-guess).toNat)
  max (-1074) ((if exact then guess else guess - 1) - 52)

/-- The bit pattern of infinity. -/
def infinityBits : Nat := 0x7FF0000000000000

/-- The bit pattern of the double nearest to `num / den`. -/
def nearestBits (num den : Nat) : Nat :=
  if num = 0 then 0
  else
    let e := lastBit num den
    let q :=
      if 0 ≤ e then roundQuotient num (den <<< e.toNat)
      else roundQuotient (num <<< (-e).toNat) den
    min infinityBits ((e + 1074).toNat <<< 52 + q)

def nearest (num den : Nat) : Float := Float.ofBits (nearestBits num den).toUInt64

/-- The double nearest to `digits * 10 ^ exponent`. Exponents far out of range are not written
out. -/
def ofDigits (digits : Nat) (exponent : Int) : Float :=
  let magnitude : Int := (digits.log2 : Int) * 3 / 10 + exponent
  if digits = 0 then nearest 0 1
  else if 400 < magnitude then Float.ofBits infinityBits.toUInt64
  else if magnitude < -400 then nearest 0 1
  else if 0 ≤ exponent then nearest (digits * Nat.pow 10 exponent.toNat) 1
  else nearest digits (Nat.pow 10 (-exponent).toNat)

end PatternComposer.Decimal
