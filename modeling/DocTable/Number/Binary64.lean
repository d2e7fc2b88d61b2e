/-
# Binary numbers of 64 bits

The interchange format of 64 bits: a sign, eleven bits of exponent and fifty-two bits of fraction.
A finite number stands for `± significand * 2 ^ scale`. Decimal text is read to the nearest number
of the format, ties to the even significand, in exact integer arithmetic.
-/
import DocTable.Number.Exact

namespace DocTable

/-- A binary number of 64 bits. -/
structure Binary64 where
  /-- The bits of the number: sign, exponent, fraction. -/
  bits : UInt64
deriving DecidableEq

namespace Binary64

/-- Whether the sign bit is set. -/
def isNegative (x : Binary64) : Bool := decide (Nat.pow 2 63 ≤ x.bits.toNat)

/-- The eleven bits of the exponent. -/
def exponentField (x : Binary64) : Nat := x.bits.toNat / Nat.pow 2 52 % Nat.pow 2 11

/-- The fifty-two bits of the fraction. -/
def fractionField (x : Binary64) : Nat := x.bits.toNat % Nat.pow 2 52

/-- Whether the number is neither infinite nor a failed computation. -/
def isFinite (x : Binary64) : Bool := x.exponentField != 2047

/-- Whether the bits stand for no number. -/
def isNaN (x : Binary64) : Bool := x.exponentField == 2047 && x.fractionField != 0

/-- Whether the number is infinite. -/
def isInfinite (x : Binary64) : Bool := x.exponentField == 2047 && x.fractionField == 0

/-- The integer that a finite number multiplies by a power of two. -/
def significand (x : Binary64) : Nat :=
  if x.exponentField = 0 then x.fractionField else Nat.pow 2 52 + x.fractionField

/-- The power of two of a finite number. -/
def scale (x : Binary64) : Int := (max x.exponentField 1 : Int) - 1075

/-- Whether the number is zero, of either sign. -/
def isZero (x : Binary64) : Bool := x.exponentField == 0 && x.fractionField == 0

/-- The number with the given sign and the given magnitude bits. -/
def ofMagnitude (negative : Bool) (magnitude : Nat) : Binary64 :=
  ⟨UInt64.ofNat (if negative then Nat.pow 2 63 + magnitude else magnitude)⟩

/-- The magnitude bits of infinity. -/
def infiniteBits : Nat := 2047 * Nat.pow 2 52

/-- The infinity of the given sign. -/
def infinity (negative : Bool) : Binary64 := ofMagnitude negative infiniteBits

/-- Bits that stand for no number; the payload tells one occurrence from another. -/
def nan (payload : Nat) : Binary64 :=
  ofMagnitude false (infiniteBits + Nat.pow 2 51 + payload % Nat.pow 2 51)

/-- Positive zero. -/
def zero : Binary64 := ⟨0⟩

/-- A quotient rounded to the nearest integer, ties to the even one. -/
def roundHalfEven (num den : Nat) : Nat :=
  let floor := num / den
  let twice := 2 * (num % den)
  if twice < den then floor
  else if den < twice then floor + 1
  else if floor % 2 = 0 then floor else floor + 1

/-- The quotient `num / (den * 2 ^ scale)` as a numerator and a denominator. -/
def unscaled (num den : Nat) (scale : Int) : Nat × Nat :=
  (num * Nat.pow 2 (-scale).toNat, den * Nat.pow 2 scale.toNat)

/-- The power of two whose multiples are the numbers of the format next to a positive quotient:
the significand has fifty-three bits unless the quotient is below the normal range. -/
def scaleFor (num den : Nat) : Int :=
  let guess : Int := max ((Nat.log2 num : Int) - Nat.log2 den - 52) (-1074)
  let (n, d) := unscaled num den guess
  if n / d < Nat.pow 2 52 ∧ -1074 < guess then guess - 1 else guess

/-- The magnitude bits of the number nearest to a positive quotient, infinity past the largest. -/
def magnitudeOf (num den : Nat) : Nat :=
  let scale := scaleFor num den
  let (n, d) := unscaled num den scale
  min ((scale + 1074).toNat * Nat.pow 2 52 + roundHalfEven n d) infiniteBits

/-- The number nearest to `± digits * 10 ^ exponent`. Exponents far outside the range of the format
are answered without computing the power. -/
def ofDecimal (negative : Bool) (digits : Nat) (exponent : Int) : Binary64 :=
  let places : Int := exponent + Number.roughDigitCount digits
  if digits = 0 ∨ places < -400 then ofMagnitude negative 0
  else if 400 < places then infinity negative
  else
    ofMagnitude negative
      (magnitudeOf (digits * Nat.pow 10 exponent.toNat) (Nat.pow 10 (-exponent).toNat))

/-- The exact value of a number, if it is one. -/
def exactValue? (x : Binary64) : Option Number.Exact :=
  if x.isNaN then none
  else if x.isInfinite then some (.infinite x.isNegative)
  else some (.scaled x.isNegative x.significand x.scale 0)

/-- The integer part of a finite number, toward zero. -/
def truncate (x : Binary64) : Int :=
  let part := x.significand * Nat.pow 2 x.scale.toNat / Nat.pow 2 (-x.scale).toNat
  if x.isNegative then -(part : Int) else part

end Binary64
end DocTable
