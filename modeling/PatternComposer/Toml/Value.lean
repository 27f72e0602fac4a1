/-! # TOML values

Dates and times keep the parts that were written; `Datetime.text` is their normal form.
-/

namespace PatternComposer.Toml

structure Date where
  year : Nat
  month : Nat
  day : Nat
deriving DecidableEq, Repr

structure Time where
  hour : Nat
  minute : Nat
  second : Nat
  nanosecond : Nat
deriving DecidableEq, Repr

/-- A distance from universal time: none that is named, or one in minutes. -/
inductive Offset where
  | universal
  | minutes (negative : Bool) (count : Nat)
deriving DecidableEq, Repr

inductive Datetime where
  | date (date : Date)
  | time (time : Time)
  | both (date : Date) (time : Time) (offset : Option Offset)
deriving DecidableEq, Repr

/-- A number in at least `width` digits. -/
def padded (width n : Nat) : String :=
  let digits := Nat.toDigits 10 n
  String.ofList (List.replicate (width - digits.length) '0' ++ digits)

/-- A list without the zeros at its end. -/
def dropTrailingZeros (digits : List Char) : List Char :=
  (digits.reverse.dropWhile (· == '0')).reverse

namespace Date

def text (d : Date) : String :=
  padded 4 d.year ++ "-" ++ padded 2 d.month ++ "-" ++ padded 2 d.day

/-- The number of days of a month. -/
def daysIn (year month : Nat) : Nat :=
  let leap := decide (year % 4 = 0) && (decide (year % 100 ≠ 0) || decide (year % 400 = 0))
  if month = 2 then if leap then 29 else 28
  else if month = 4 ∨ month = 6 ∨ month = 9 ∨ month = 11 then 30
  else 31

/-- The date exists. -/
def isValid (d : Date) : Bool :=
  decide (1 ≤ d.month) && decide (d.month ≤ 12) && decide (1 ≤ d.day) &&
    decide (d.day ≤ daysIn d.year d.month)

end Date

namespace Time

/-- A fraction of a second is written without zeros at its end. -/
def text (t : Time) : String :=
  let fraction := dropTrailingZeros (padded 9 t.nanosecond).toList
  padded 2 t.hour ++ ":" ++ padded 2 t.minute ++ ":" ++ padded 2 t.second ++
    if fraction.isEmpty then "" else "." ++ String.ofList fraction

end Time

namespace Offset

/-- Zero minutes are written with a plus sign. -/
def text : Offset → String
  | .universal => "Z"
  | .minutes negative count =>
    (if negative && count != 0 then "-" else "+") ++ padded 2 (count / 60) ++ ":" ++
      padded 2 (count % 60)

end Offset

namespace Datetime

def text : Datetime → String
  | .date d => d.text
  | .time t => t.text
  | .both d t offset => d.text ++ "T" ++ t.text ++ ((offset.map Offset.text).getD "")

end Datetime

inductive Value where
  | string (s : String)
  | integer (n : Int)
  | float (x : Float)
  | boolean (b : Bool)
  | datetime (d : Datetime)
  | array (items : List Value)
  | table (entries : List (String × Value))
deriving Inhabited

end PatternComposer.Toml
