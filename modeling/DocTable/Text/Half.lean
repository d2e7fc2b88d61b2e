/-
# Halves of pairs

In text of sixteen bit units a character past the first plane is a pair of units, a high half and a
low half. Text that is spelled unit by unit can hold a half that stands alone, and such a half is
kept: each half has a character of the last private plane that stands for it. The characters of that
range are themselves kept as their two halves. All other halves stand alone, also where joining two
texts has put a high half before a low one.
-/
import DocTable.Text.Basic

namespace DocTable
namespace Text

/-- Whether a code unit is the first half of a pair. -/
def isHighHalf (unit : Nat) : Bool := decide (0xd800 ≤ unit) && decide (unit < 0xdc00)

/-- Whether a code unit is the second half of a pair. -/
def isLowHalf (unit : Nat) : Bool := decide (0xdc00 ≤ unit) && decide (unit < 0xe000)

/-- The distance from a half to the character that stands for it. -/
def halfShift : Nat := 0x100000

/-- The half that a character stands for, if it stands for one. -/
def half? (c : Char) : Option Nat :=
  if 0xd800 + halfShift ≤ c.toNat ∧ c.toNat < 0xe000 + halfShift then some (c.toNat - halfShift)
  else none

/-- Whether a character stands for a half. -/
def isHalf (c : Char) : Bool := (half? c).isSome

/-- The character that stands for a half. -/
def ofHalf (unit : Nat) : Char := Char.ofNat (unit + halfShift)

/-- The high half of the pair of a code point past the first plane. -/
def highHalf (point : Nat) : Nat := 0xd800 + (point - 0x10000) / 0x400

/-- The low half of the pair of a code point past the first plane. -/
def lowHalf (point : Nat) : Nat := 0xdc00 + (point - 0x10000) % 0x400

/-- The code point of a pair. -/
def joinedPoint (high low : Nat) : Nat := 0x10000 + (high - 0xd800) * 0x400 + (low - 0xdc00)

/-- A code point as it is kept: a character that stands for a half is kept as its own two halves. -/
def keptPoint (point : Nat) : List Char :=
  if isHalf (Char.ofNat point) then [ofHalf (highHalf point), ofHalf (lowHalf point)]
  else [Char.ofNat point]

/-- Whether a code point is a half. -/
def isLone (point : Nat) : Bool := isHighHalf point || isLowHalf point

/-- A code point or a half as it is kept. -/
def kept (point : Nat) : List Char :=
  if isLone point then [ofHalf point] else keptPoint point

/-- The text of code points and of halves that stand alone. -/
def ofPoints (points : List Nat) : List Char := points.flatMap kept

/-- Whether two halves are those of a character that stands for a half. -/
def isKeptPair (high low : Nat) : Bool :=
  isHighHalf high && isLowHalf low && isHalf (Char.ofNat (joinedPoint high low))

/-- The code points of a text; the halves that stand alone are among them. -/
def codePoints : List Char → List Nat
  | [] => []
  | [c] => [(half? c).getD c.toNat]
  | c :: d :: rest =>
    match half? c, half? d with
    | some high, some low =>
      if isKeptPair high low then joinedPoint high low :: codePoints rest
      else high :: codePoints (d :: rest)
    | some half, none => half :: codePoints (d :: rest)
    | none, _ => c.toNat :: codePoints (d :: rest)

/-- Whether one text occurs in another. A half that stands alone does not occur in a pair. -/
def contains (text piece : String) : Bool :=
  occurs (codePoints piece.toList) (codePoints text.toList)

/-- The texts of the single code points of a text. -/
def pieces (text : List Char) : List String :=
  (codePoints text).map fun point => String.ofList (kept point)

/-- Whether a list of code points comes before another or is the same. -/
def pointsInOrder : List Nat → List Nat → Bool
  | [], _ => true
  | _ :: _, [] => false
  | p :: ps, q :: qs => decide (p < q) || (p == q && pointsInOrder ps qs)

/-- Whether a text comes before another or is the same, by code points. -/
def inOrder (a b : String) : Bool := pointsInOrder (codePoints a.toList) (codePoints b.toList)

/-- The place of the first half that stands alone, and how many stand there in a row. -/
def loneHalves? (text : String) : Option (Nat × Nat) :=
  let points := codePoints text.toList
  let before := points.takeWhile fun point => !isLone point
  match (points.drop before.length).takeWhile isLone with
  | [] => none
  | halves => some (before.length, halves.length)

/-- Whether a text can be written to a file: no half of a pair stands alone in it. -/
def isWritable (text : String) : Bool := (loneHalves? text).isNone

end Text
end DocTable
