/-
# Character classes

The character classes that decide how text is read and shown, over all of Unicode: blanks, decimal
digits, characters with a digit value, printable characters, and the two classes that the
lower-case map looks at.
-/
import DocTable.Text.ClassTable

namespace DocTable
namespace Text

/-- Whether the code point of a character lies in one of the closed ranges. -/
def inRanges (ranges : List (Nat × Nat)) (c : Char) : Bool :=
  ranges.any fun range => decide (range.1 ≤ c.toNat) && decide (c.toNat ≤ range.2)

/-- Whether a character separates words. -/
def isBlank (c : Char) : Bool := inRanges blankRanges c

/-- The value of a decimal digit of any script. -/
def decimalDigit? (c : Char) : Option Nat :=
  (decimalZeros.find? fun first => decide (first ≤ c.toNat) && decide (c.toNat < first + 10)).map
    fun first => c.toNat - first

/-- Whether a character is a decimal digit of any script. -/
def isDecimalDigit (c : Char) : Bool := (decimalDigit? c).isSome

/-- Whether a character has a digit value, as `٣` and `²` do and `½` does not. -/
def hasDigitValue (c : Char) : Bool := inRanges digitRanges c

/-- Whether a character stands for itself in displayed text. -/
def isPrintable (c : Char) : Bool := !inRanges unprintableRanges c

/-- Whether a character is a letter with case that case rules do not pass over. -/
def isCased (c : Char) : Bool := inRanges casedRanges c

/-- Whether case rules pass over a character. -/
def isCaseIgnorable (c : Char) : Bool := inRanges caseIgnorableRanges c

/-- Whether a character is a letter of the ASCII alphabet. -/
def isAsciiLetter (c : Char) : Bool := c.isAlpha

/-- Whether a character can start a plain identifier: an ASCII letter or an underscore. -/
def startsIdentifier (c : Char) : Bool := c.isAlpha || c == '_'

/-- Whether a character can stand inside a plain identifier. -/
def continuesIdentifier (c : Char) : Bool := c.isAlphanum || c == '_'

end Text
end DocTable
