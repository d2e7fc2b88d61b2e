/-
# Shortest decimal text of a binary number

A finite number is written with the fewest decimal digits that read back as the same number, and of
those with the digits nearest to it. Text between `0.0001` and `1e+16` is positional, all else has
an exponent of at least two digits.
-/
import DocTable.Number.Binary64

namespace DocTable
namespace Binary64

/-- The numbers that read back as `x` lie between these two bounds, given over a common
denominator; the bounds themselves do when `closed`. -/
structure Interval where
  /-- Numerator of the number itself. -/
  value : Nat
  /-- Numerator of the lower bound. -/
  lower : Nat
  /-- Numerator of the upper bound. -/
  upper : Nat
  /-- The common denominator. -/
  den : Nat
  /-- Whether a bound reads back as the number. -/
  closed : Bool

/-- The interval of a positive finite number: half way to each neighbour. Below a power of two the
neighbour is half as far away. -/
def interval (x : Binary64) : Interval :=
  let m := x.significand
  let up := Nat.pow 2 x.scale.toNat
  let below := if m = Nat.pow 2 52 ∧ 1 < x.exponentField then 1 else 2
  { value := 4 * m * up
    lower := (4 * m - below) * up
    upper := (4 * m + 2) * up
    den := 4 * Nat.pow 2 (-x.scale).toNat
    closed := m % 2 == 0 }

/-- Whether `digits * num / den` reads back as the number. -/
def Interval.holds (i : Interval) (digits num den : Nat) : Bool :=
  let point := digits * num * i.den
  if i.closed then decide (i.lower * den ≤ point) && decide (point ≤ i.upper * den)
  else decide (i.lower * den < point) && decide (point < i.upper * den)

/-- The digits nearest to the number on the grid of multiples of `10 ^ exponent`, if one of its two
neighbours on that grid reads back as the number. -/
def Interval.onGrid? (i : Interval) (exponent : Int) : Option Nat :=
  let num := Nat.pow 10 exponent.toNat
  let den := Nat.pow 10 (-exponent).toNat
  let floor := i.value * den / (i.den * num)
  let twice := 2 * (i.value * den % (i.den * num))
  let nearerUp := decide (i.den * num < twice) || (twice == i.den * num && floor % 2 == 1)
  match i.holds floor num den, i.holds (floor + 1) num den with
  | true, true => some (if nearerUp then floor + 1 else floor)
  | true, false => some floor
  | false, true => some (floor + 1)
  | false, false => none

/-- The number of places before the point: the number is below `10 ^ places` and not below a tenth
of that. -/
def Interval.places (i : Interval) : Int :=
  let guess : Int := ((Nat.log2 i.value : Int) - Nat.log2 i.den) * 30103 / 100000
  let fits (k : Int) : Bool :=
    decide (i.value * Nat.pow 10 (-k).toNat < i.den * Nat.pow 10 k.toNat)
  if fits (guess - 1) then guess - 1
  else if fits guess then guess
  else if fits (guess + 1) then guess + 1
  else guess + 2

/-- The first grid of `count`, `count + 1`, … digits on which the number has a neighbour that reads
back, for at most `tries` grids. -/
def Interval.search (i : Interval) (count : Nat) : Nat → Nat × Int
  | 0 => (i.value / i.den, 0)
  | tries + 1 =>
    let exponent := i.places - count
    match i.onGrid? exponent with
    | some digits => (digits, exponent)
    | none => i.search (count + 1) tries

/-- The shortest digits of a positive finite number and their power of ten. -/
def shortest (x : Binary64) : Nat × Int := x.interval.search 1 17

/-- The digits without their trailing zeros, and the number of zeros removed. -/
def withoutTrailingZeros (digits : List Char) : List Char × Nat :=
  let kept := (digits.reverse.dropWhile (· == '0')).reverse
  (kept, digits.length - kept.length)

/-- Digits with the point `places` characters after the first, `places` being negative or past the
last digit as well. -/
def positional (digits : List Char) (places : Int) : List Char :=
  if places ≤ 0 then '0' :: '.' :: List.replicate (-places).toNat '0' ++ digits
  else if (digits.length : Int) ≤ places then
    digits ++ List.replicate (places.toNat - digits.length) '0' ++ ['.', '0']
  else digits.take places.toNat ++ '.' :: digits.drop places.toNat

/-- Digits with one of them before the point and a power of ten. -/
def scientific (digits : List Char) (exponent : Int) : List Char :=
  let sign := if exponent < 0 then '-' else '+'
  let power := Nat.toDigits 10 exponent.natAbs
  let padding := if power.length < 2 then ['0'] else []
  digits.take 1 ++ (if digits.length ≤ 1 then [] else '.' :: digits.drop 1)
    ++ 'e' :: sign :: padding ++ power

/-- The text of the magnitude of a finite number. -/
def magnitudeText (x : Binary64) : List Char :=
  if x.isZero then ['0', '.', '0']
  else
    let (n, exponent) := x.shortest
    let (digits, removed) := withoutTrailingZeros (Nat.toDigits 10 n)
    let places : Int := digits.length + removed + exponent
    if -4 < places ∧ places ≤ 16 then positional digits places
    else scientific digits (places - 1)

/-- The texts of what is not a finite number. -/
structure SpecialNames where
  /-- Text of what is no number. -/
  nan : String
  /-- Text of positive infinity; a minus sign precedes it for the negative one. -/
  infinity : String

/-- The names in displayed values. -/
def shownNames : SpecialNames := ⟨"nan", "inf"⟩

/-- The names in JSON text. -/
def jsonNames : SpecialNames := ⟨"NaN", "Infinity"⟩

/-- The text of a number. -/
def text (names : SpecialNames) (x : Binary64) : String :=
  if x.isNaN then names.nan
  else
    (if x.isNegative then "-" else "")
      ++ (if x.isInfinite then names.infinity else String.ofList x.magnitudeText)

end Binary64
end DocTable
