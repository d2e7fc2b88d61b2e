/-
# Text between quotes

How a text is shown as a value: between quotes, with escapes for what cannot be read as itself.
Apostrophes stand around it, or double quotes when it holds an apostrophe and no double quote.
-/
import DocTable.Text.Basic
import DocTable.Text.Half

namespace DocTable
namespace Text

/-- The quote around a shown text. -/
def quoteFor (text : List Char) : Char :=
  if text.contains '\x27' && !text.contains '\x22' then '\x22' else '\x27'

/-- A code point as an escape of the fewest digits. -/
def pointEscape (point : Nat) : List Char :=
  if point < 0x100 then '\\' :: 'x' :: hexDigits 2 point
  else if point < 0x10000 then '\\' :: 'u' :: hexDigits 4 point
  else '\\' :: 'U' :: hexDigits 8 point

/-- A code point inside a shown text with the given quote. Halves that stand alone and the code
points of the range that stands for them are not printable. -/
def quotedPoint (quote : Char) (point : Nat) : List Char :=
  let c := Char.ofNat point
  if c = quote ∨ c = '\\' then ['\\', c]
  else if c = '\n' then ['\\', 'n']
  else if c = '\r' then ['\\', 'r']
  else if c = '\t' then ['\\', 't']
  else if isPrintable c then [c]
  else pointEscape point

/-- A text as it is shown between quotes. -/
def quoted (text : String) : String :=
  let quote := quoteFor text.toList
  String.ofList (quote :: (codePoints text.toList).flatMap (quotedPoint quote) ++ [quote])

/-- A byte inside shown bytes with the given quote. -/
def quotedByte (quote : Char) (b : UInt8) : List Char :=
  let c := Char.ofNat b.toNat
  if c = quote ∨ c = '\\' then ['\\', c]
  else if c = '\n' then ['\\', 'n']
  else if c = '\r' then ['\\', 'r']
  else if c = '\t' then ['\\', 't']
  else if 32 ≤ b.toNat ∧ b.toNat < 127 then [c]
  else '\\' :: 'x' :: hexDigits 2 b.toNat

/-- Bytes as they are shown: a `b` and quotes around their ASCII reading. -/
def quotedBytes (bytes : List UInt8) : String :=
  let quote := quoteFor (bytes.map fun b => Char.ofNat b.toNat)
  String.ofList ('b' :: quote :: bytes.flatMap (quotedByte quote) ++ [quote])

end Text
end DocTable
