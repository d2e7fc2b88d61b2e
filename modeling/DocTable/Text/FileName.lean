/-
# Names as bytes

The names of files and the variables of an environment are bytes. A name that is a text is written
in UTF-8, and the low halves of one block stand for the bytes that are no part of any character, so
that every row of bytes has a name. Two texts are the same name when they have the same bytes.
-/
import DocTable.Text.Half

namespace DocTable
namespace Text

/-- The byte that a half stands for, if it stands for one. -/
def escapedByte? (point : Nat) : Option UInt8 :=
  if 0xdc80 ≤ point ∧ point < 0xdd00 then some (UInt8.ofNat (point - 0xdc00)) else none

/-- Whether a code point is a half that stands for no byte. -/
def isRefused (point : Nat) : Bool :=
  isLone point && (escapedByte? point).isNone

/-- The bytes of a code point. -/
def nameBytes (point : Nat) : List UInt8 :=
  match escapedByte? point with
  | some b => [b]
  | none => String.utf8EncodeChar (Char.ofNat point)

/-- The bytes of a name, unless it has a half that stands for no byte. -/
def nameBytes? (name : String) : Option (List UInt8) :=
  let points := codePoints name.toList
  if points.any isRefused then none else some (points.flatMap nameBytes)

/-- The place of the first half that stands for no byte, and how many halves stand there in a
row. -/
def refusedHalves? (name : String) : Option (Nat × Nat) :=
  let points := codePoints name.toList
  let before := points.takeWhile fun point => !isRefused point
  match (points.drop before.length).takeWhile isLone with
  | [] => none
  | halves => some (before.length, halves.length)

/-- The character that the first so many bytes spell, if they spell one. -/
def characterOf? (bytes : List UInt8) (size : Nat) : Option (Char × Nat) :=
  match (String.fromUTF8? ⟨(bytes.take size).toArray⟩).map String.toList with
  | some [c] => some (c, size)
  | _ => none

/-- The character at the start of some bytes and how many bytes spell it. -/
def firstCharacter? (bytes : List UInt8) : Option (Char × Nat) :=
  [1, 2, 3, 4].findSome? (characterOf? bytes)

/-- The name of bytes after some that have been read already. -/
def namePoints : Nat → List UInt8 → List Nat
  | _, [] => []
  | known + 1, _ :: rest => namePoints known rest
  | 0, b :: rest =>
    match firstCharacter? (b :: rest) with
    | some (c, size) => c.toNat :: namePoints (size - 1) rest
    | none => (0xdc00 + b.toNat) :: namePoints 0 rest

/-- The one text among those of the same name that spells as many characters as possible. -/
def sameName (name : String) : String :=
  match nameBytes? name with
  | some bytes => String.ofList (ofPoints (namePoints 0 bytes))
  | none => name

/-- The number of bytes of a name. -/
def nameSize (name : String) : Nat :=
  ((codePoints name.toList).flatMap nameBytes).length

end Text
end DocTable
