/-
# Integers in text

How an integer is read from text or bytes: blanks around it, one sign, decimal digits of any script
and single underscores between digits. There is a limit to the number of digits, leading zeros
included.
-/
import DocTable.Number.Exact
import DocTable.Text.Class

namespace DocTable
namespace Number

/-- Blanks that may stand around an integer: the separators of files, groups, records and units are
not among them. -/
def isIntegerBlank (c : Char) : Bool := Text.isBlank c && !decide (0x1c ≤ c.toNat ∧ c.toNat ≤ 0x1f)

/-- The values of digits with single underscores between them; `digit?` reads one digit. -/
def digitValues? (digit? : Char → Option Nat) : List Char → Option (List Nat)
  | [] => none
  | [c] => (digit? c).map fun d => [d]
  | c :: '_' :: rest =>
    match digit? c, digitValues? digit? rest with
    | some d, some ds => some (d :: ds)
    | _, _ => none
  | c :: rest =>
    match digit? c, digitValues? digit? rest with
    | some d, some ds => some (d :: ds)
    | _, _ => none

/-- The characters without the blanks at both ends, given what is a blank. -/
def trimmed (blank : Char → Bool) (text : List Char) : List Char :=
  ((text.dropWhile blank).reverse.dropWhile blank).reverse

/-- The sign in front of a text, and the text after it. -/
def signed (text : List Char) : Bool × List Char :=
  match text with
  | '-' :: digits => (true, digits)
  | '+' :: digits => (false, digits)
  | digits => (false, digits)

/-- The integer of a sign and a magnitude. -/
def withSign (negative : Bool) (n : Nat) : Int := if negative then -(n : Int) else n

/-- Reads an integer from characters, given the blanks around it and the digits in it. -/
def readInteger? (blank : Char → Bool) (digit? : Char → Option Nat) (text : List Char) :
    Option Int :=
  let (negative, digits) := signed (trimmed blank text)
  match digitValues? digit? digits with
  | some ds => if digitLimit < ds.length then none else some (withSign negative (ofDigits ds))
  | none => none

/-- The value of a digit of ASCII. -/
def asciiDigit? (c : Char) : Option Nat :=
  if c.isDigit then some (c.toNat - '0'.toNat) else none

/-- Reads an integer from text. -/
def ofText? (text : String) : Option Int :=
  readInteger? isIntegerBlank Text.decimalDigit? text.toList

/-- Reads an integer from bytes, which are taken as ASCII. -/
def ofBytes? (bytes : List UInt8) : Option Int :=
  readInteger? (fun c => isIntegerBlank c && decide (c.toNat < 128)) asciiDigit?
    (bytes.map fun b => Char.ofNat b.toNat)

end Number
end DocTable
