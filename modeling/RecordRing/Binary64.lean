set_option autoImplicit false

namespace RecordRing

/-- A quotient rounded to the nearest whole number, a tie to the even one. -/
def roundDiv (dividend divisor : Nat) : Nat :=
  let quotient := dividend / divisor
  let rest := dividend % divisor
  if divisor < 2 * rest || (2 * rest = divisor && quotient % 2 = 1) then quotient + 1 else quotient

/-- The number `mantissa` times two to the `exponent`. -/
structure Binary64 where
  mantissa : Nat
  exponent : Int
  deriving DecidableEq, Repr

namespace Binary64

/-- Numerator and denominator of a number times a power of two. -/
def scale (numerator denominator : Nat) : Int → Nat × Nat
  | .ofNat shift => (numerator <<< shift, denominator)
  | .negSucc shift => (numerator, denominator <<< (shift + 1))

/-- A mantissa that was rounded up to 54 bits is a power of two: half of it is enough, with the next
exponent. -/
def carry (number : Binary64) : Binary64 :=
  if number.mantissa = 1 <<< 53 then ⟨1 <<< 52, number.exponent + 1⟩ else number

/-- The quotient rounded to 53 bits. -/
def ofQuotient (numerator denominator : Nat) : Binary64 :=
  if numerator = 0 then
    ⟨0, 0⟩
  else
    let guess : Int := (numerator.log2 : Int) - denominator.log2 - 52
    let (dividend, divisor) := scale numerator denominator (-guess)
    let exponent := if dividend < divisor <<< 52 then guess - 1 else guess
    let (dividend, divisor) := scale numerator denominator (-exponent)
    carry ⟨roundDiv dividend divisor, exponent⟩

/-- The exponent of the least number. -/
def minExponent : Int := -1074

/-- The quotient rounded to 53 bits, or to a multiple of the least number. -/
def nearest (numerator denominator : Nat) : Binary64 :=
  let number := ofQuotient numerator denominator
  if minExponent ≤ number.exponent then
    number
  else
    let (dividend, divisor) := scale numerator denominator (-minExponent)
    ⟨roundDiv dividend divisor, minExponent⟩

def ofNat (value : Nat) : Binary64 :=
  ofQuotient value 1

def toQuotient (number : Binary64) : Nat × Nat :=
  scale number.mantissa 1 number.exponent

def div (dividend divisor : Binary64) : Binary64 :=
  let (numerator, denominator) := dividend.toQuotient
  let (factor, part) := divisor.toQuotient
  ofQuotient (numerator * part) (denominator * factor)

/-- The pattern of bits that stands for the number. The highest bit of a mantissa is not written, but
counts as one more of the exponent. -/
def bits (number : Binary64) : UInt64 :=
  if number.mantissa = 0 then 0
  else
    let biased := (number.exponent + 1075).toNat
    UInt64.ofNat (biased <<< 52 + number.mantissa - 1 <<< 52)

end Binary64

end RecordRing
