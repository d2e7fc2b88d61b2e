/-
# Exact values of numbers

Integers, binary fractions and decimal fractions are compared by the exact number they stand for.
Each of them is an integer times a power of two and a power of five, and has only one such form in
which neither two nor five divides the integer. So two numbers are the same when their forms are,
and comparing them never computes a power.
-/

namespace DocTable
namespace Number

/-- The exact value of a number. -/
inductive Exact where
  /-- The number `± unit * 2 ^ twos * 5 ^ fives`; neither two nor five divides the unit. -/
  | finite (negative : Bool) (unit : Nat) (twos fives : Int)
  /-- An infinity of the given sign. -/
  | infinite (negative : Bool)
deriving DecidableEq

/-- How often a factor divides a positive number, at most `tries` times, and what is left. -/
def withoutFactor (factor : Nat) : Nat → Nat → Nat × Nat
  | 0, n => (0, n)
  | tries + 1, n =>
    if n % factor = 0 then
      let (times, rest) := withoutFactor factor tries (n / factor)
      (times + 1, rest)
    else (0, n)

namespace Exact

/-- Zero, which has no sign. -/
def zero : Exact := finite false 0 0 0

/-- The value `± n * 2 ^ twos * 5 ^ fives`. -/
def scaled (negative : Bool) (n : Nat) (twos fives : Int) : Exact :=
  if n = 0 then zero
  else
    let (moreTwos, rest) := withoutFactor 2 (Nat.log2 n) n
    let (moreFives, unit) := withoutFactor 5 (Nat.log2 rest) rest
    finite negative unit (twos + moreTwos) (fives + moreFives)

/-- An integer as an exact value. -/
def ofInt (n : Int) : Exact := scaled (n < 0) n.natAbs 0 0

end Exact

/-- About the number of digits of a number in base ten, found from its bits: it is off by at most
one for each hundred million digits, and by one more. -/
def roughDigitCount (n : Nat) : Nat := Nat.log2 n * 30103 / 100000

/-- The number that a list of decimal digit values spells. -/
def ofDigits (digits : List Nat) : Nat := digits.foldl (fun n d => 10 * n + d) 0

/-- The greatest number of digits with which a whole number is read or written. -/
def digitLimit : Nat := 4300

/-- Whether a whole number has too many digits to be written. -/
def isTooLong (n : Int) : Bool := decide (Nat.pow 10 digitLimit ≤ n.natAbs)

end Number
end DocTable
