import RecordRing.Binary64

set_option autoImplicit false

namespace RecordRing

namespace ShortestDecimal

/-- The numbers that are rounded to a given one lie between `low` and `high`, in units of `1 / scale`;
the ends belong to them if `closed`. -/
structure Interval where
  value : Nat
  low : Nat
  high : Nat
  scale : Nat
  closed : Bool

/-- The numbers that are rounded to this one. Below a power of two the neighbour is nearer. -/
def Interval.ofNumber (number : Binary64) : Interval :=
  let lower := number.mantissa = 1 <<< 52 && number.exponent != Binary64.minExponent
  let (unit, denominator) := Binary64.scale 1 4 number.exponent
  { value := 4 * number.mantissa * unit
    low := (4 * number.mantissa - (if lower then 1 else 2)) * unit
    high := (4 * number.mantissa + 2) * unit
    scale := denominator
    closed := number.mantissa % 2 = 0 }

/-- The power of ten just above a quotient. -/
def magnitude (numerator denominator : Nat) : Int :=
  if denominator ≤ numerator then
    ((Nat.toDigits 10 (numerator / denominator)).length : Int)
  else
    let parts := (denominator - 1) / numerator
    1 - ((Nat.toDigits 10 parts).length : Int)

structure Decimal where
  digits : Nat
  exponent : Int
  deriving DecidableEq, Repr

/-- The interval in units of ten to the exponent. -/
def Interval.inUnits (interval : Interval) (exponent : Int) : Interval :=
  match exponent with
  | .ofNat shift => { interval with scale := interval.scale * Nat.pow 10 shift }
  | .negSucc shift =>
      let factor := Nat.pow 10 (shift + 1)
      { interval with
        value := interval.value * factor
        low := interval.low * factor
        high := interval.high * factor }

def Interval.holds (interval : Interval) (number : Nat) : Bool :=
  let scaled := number * interval.scale
  if interval.closed then interval.low ≤ scaled && scaled ≤ interval.high
  else interval.low < scaled && scaled < interval.high

/-- The nearest whole number in the interval, if one of the two neighbours of the value is in it. Of
two that are equally near, the greater one. -/
def Interval.nearest? (interval : Interval) : Option Nat :=
  let below := interval.value / interval.scale
  let rest := interval.value % interval.scale
  let nearer := if interval.scale ≤ 2 * rest then below + 1 else below
  let other := if nearer = below then below + 1 else below
  [nearer, other].find? interval.holds

/-- The decimal number with the fewest digits, of which seventeen are enough. -/
def ofNumber (number : Binary64) : Decimal :=
  let interval := Interval.ofNumber number
  let top := magnitude interval.value interval.scale
  let found := (List.range 17).findSome? fun count =>
    let exponent := top - (count + 1 : Nat)
    ((interval.inUnits exponent).nearest?).map fun digits => (⟨digits, exponent⟩ : Decimal)
  found.getD ⟨0, 0⟩

/-- A decimal number without an exponent, and with at least one digit behind the point. -/
def Decimal.text (decimal : Decimal) : String :=
  let digits := Nat.toDigits 10 decimal.digits
  match decimal.exponent with
  | .ofNat shift => String.ofList (digits ++ List.replicate shift '0') ++ ".0"
  | .negSucc shift =>
      let places := shift + 1
      let padded := List.replicate (places + 1 - digits.length) '0' ++ digits
      let whole := padded.length - places
      String.ofList (padded.take whole) ++ "." ++ String.ofList (padded.drop whole)

end ShortestDecimal

namespace Binary64

/-- The number as the shortest decimal text that reads back as it. -/
def text (number : Binary64) : String :=
  if number.mantissa = 0 then "0.0" else (ShortestDecimal.ofNumber number).text

end Binary64

end RecordRing
