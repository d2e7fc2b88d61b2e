/-
# Decimal numbers

Decimal numbers keep their coefficient and exponent, so that `1.5` and `1.50` are the same number
with different texts. The text has an exponent when the number is a multiple of a power of ten or
starts more than six places after the point.
-/
import DocTable.Number.Exact
import DocTable.Text.Basic

namespace DocTable

/-- A decimal number. -/
inductive Decimal where
  /-- The number `± coefficient * 10 ^ exponent`. -/
  | finite (negative : Bool) (coefficient : Nat) (exponent : Int)
  /-- An infinity. -/
  | infinite (negative : Bool)
  /-- No number; a payload of zero is not written. A signaling one cannot be compared with numbers.
  The occurrence is never written, it tells one from another. -/
  | nan (negative signaling : Bool) (payload occurrence : Nat)
deriving DecidableEq

namespace Decimal

/-- The text of the magnitude of a finite number. -/
def magnitudeText (coefficient : Nat) (exponent : Int) : List Char :=
  let digits := Nat.toDigits 10 coefficient
  let places : Int := digits.length + exponent
  if exponent = 0 then digits
  else if exponent < 0 ∧ -6 < places then
    if places ≤ 0 then '0' :: '.' :: List.replicate (-places).toNat '0' ++ digits
    else digits.take places.toNat ++ '.' :: digits.drop places.toNat
  else
    let power := places - 1
    digits.take 1 ++ (if digits.length ≤ 1 then [] else '.' :: digits.drop 1)
      ++ 'E' :: (if power < 0 then '-' else '+') :: Nat.toDigits 10 power.natAbs

/-- The text of a decimal number. -/
def text : Decimal → String
  | finite negative coefficient exponent =>
    (if negative then "-" else "") ++ String.ofList (magnitudeText coefficient exponent)
  | infinite negative => (if negative then "-" else "") ++ "Infinity"
  | nan negative signaling payload _ =>
    (if negative then "-" else "") ++ (if signaling then "sNaN" else "NaN")
      ++ (if payload = 0 then "" else payload.repr)

/-- The number of a nonempty list of ASCII digits. -/
def natural? (digits : List Char) : Option Nat :=
  if digits.isEmpty || !digits.all Char.isDigit then none
  else some (Number.ofDigits (digits.map fun c => c.toNat - '0'.toNat))

/-- The exponent after the mark `E`: digits with an optional sign. -/
def exponent? : List Char → Option Int
  | '-' :: digits => (natural? digits).map fun n => -(n : Int)
  | '+' :: digits => (natural? digits).map fun n => (n : Int)
  | digits => (natural? digits).map fun n => (n : Int)

/-- Reads a number without its sign. -/
def unsigned? (negative : Bool) (text : List Char) : Option Decimal :=
  if text = "Infinity".toList then some (infinite negative)
  else if text = "NaN".toList then some (nan negative false 0 0)
  else if text = "sNaN".toList then some (nan negative true 0 0)
  else if "NaN".toList.isPrefixOf text then
    (natural? (text.drop 3)).map fun payload => nan negative false payload 0
  else if "sNaN".toList.isPrefixOf text then
    (natural? (text.drop 4)).map fun payload => nan negative true payload 0
  else
    let number := text.takeWhile (· != 'E')
    let power := text.drop (number.length + 1)
    let whole := number.takeWhile (· != '.')
    let fraction := number.drop (whole.length + 1)
    match natural? (whole ++ fraction), if power.isEmpty then some 0 else exponent? power with
    | some coefficient, some e => some (finite negative coefficient (e - fraction.length))
    | _, _ => none

/-- Reads the text of a decimal number. -/
def ofText? (text : String) : Option Decimal :=
  match text.toList with
  | '-' :: rest => unsigned? true rest
  | rest => unsigned? false rest

/-- Whether the number is zero. -/
def isZero : Decimal → Bool
  | finite _ coefficient _ => coefficient == 0
  | _ => false

/-- The exact value of a number, if it is one. -/
def exactValue? : Decimal → Option Number.Exact
  | finite negative coefficient exponent => some (.scaled negative coefficient exponent exponent)
  | infinite negative => some (.infinite negative)
  | nan .. => none

/-- Whether the number is a signaling one. -/
def isSignaling : Decimal → Bool
  | nan _ signaling _ _ => signaling
  | _ => false

/-- The integer part of a finite number, toward zero. A number below one has the part zero, whatever
power of ten it is a multiple of. -/
def truncate (negative : Bool) (coefficient : Nat) (exponent : Int) : Int :=
  let part :=
    if 0 ≤ exponent then coefficient * Nat.pow 10 exponent.toNat
    else if Nat.log2 coefficient < (-exponent).toNat then 0
    else coefficient / Nat.pow 10 (-exponent).toNat
  if negative then -(part : Int) else part

/-- Whether a finite number is an integer. -/
def isWhole (coefficient : Nat) (exponent : Int) : Bool :=
  match Number.Exact.scaled false coefficient exponent exponent with
  | .finite _ _ twos fives => decide (0 ≤ twos) && decide (0 ≤ fives)
  | .infinite _ => false

end Decimal
end DocTable
