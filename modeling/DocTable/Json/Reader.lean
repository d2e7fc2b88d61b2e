/-
# Reading JSON text

A reader for JSON text with three more words for numbers: `NaN`, `Infinity` and `-Infinity`. Numbers
without a point or an exponent are integers. Where an object repeats a key, the last value stands in
the place of the first. The first problem from the left decides why a text cannot be read. The fuel
of the reader only bounds its calls; a multiple of the length of the text is always enough, since
two calls in a row consume a character.
-/
import DocTable.Value.Entries
import DocTable.Text.Basic
import DocTable.Text.Half

namespace DocTable
namespace Json

/-- Why a text cannot be read. -/
inductive Problem where
  /-- It is no JSON text. -/
  | malformed
  /-- It has an integer of too many digits. -/
  | longInteger
  /-- Lists and objects are nested too deeply in it. -/
  | tooDeep
deriving DecidableEq

/-- Whether a character may stand between the parts of a JSON text. -/
def isSpace (c : Char) : Bool := c == ' ' || c == '\t' || c == '\n' || c == '\r'

/-- The text after leading spaces. -/
def skipSpaces (text : List Char) : List Char := text.dropWhile isSpace

/-! ## Strings -/

/-- The number that four hexadecimal digits spell. -/
def hexUnit? (a b c d : Char) : Option Nat :=
  match Text.hexValue? a, Text.hexValue? b, Text.hexValue? c, Text.hexValue? d with
  | some a, some b, some c, some d => some (((a * 16 + b) * 16 + c) * 16 + d)
  | _, _, _, _ => none

/-- The character of an escape of one letter. -/
def letterEscape? : Char → Option Char
  | '\x22' => some '\x22'
  | '\x5c' => some '\x5c'
  | '/' => some '/'
  | 'b' => some '\x08'
  | 'f' => some '\x0c'
  | 'n' => some '\n'
  | 'r' => some '\r'
  | 't' => some '\t'
  | _ => none

/-- A part of a string. -/
inductive Part where
  /-- A code unit that an escape spells. -/
  | unit (number : Nat)
  /-- A code point, or a half of a pair that stands alone. -/
  | point (number : Nat)

/-- The number of a part. -/
def Part.number : Part → Nat
  | unit number => number
  | point number => number

/-- The code points of parts: escapes of two halves in a row spell one character. -/
def partPoints : List Part → List Nat
  | .unit high :: .unit low :: rest =>
    if Text.isHighHalf high && Text.isLowHalf low then
      Text.joinedPoint high low :: partPoints rest
    else high :: partPoints (.unit low :: rest)
  | part :: rest => part.number :: partPoints rest
  | [] => []

/-- Reads the parts of a string up to its closing quote, and the text after the quote. -/
def readParts : List Char → Option (List Part × List Char)
  | [] => none
  | '\x22' :: rest => some ([], rest)
  | '\x5c' :: 'u' :: a :: b :: c :: d :: rest =>
    match hexUnit? a b c d, readParts rest with
    | some unit, some (parts, rest) => some (.unit unit :: parts, rest)
    | _, _ => none
  | '\x5c' :: e :: rest =>
    match letterEscape? e, readParts rest with
    | some c, some (parts, rest) => some (.point c.toNat :: parts, rest)
    | _, _ => none
  | c :: rest =>
    if c.toNat < 0x20 ∨ c = '\x5c' then none
    else
      (readParts rest).map fun (parts, rest) =>
        (.point ((Text.half? c).getD c.toNat) :: parts, rest)

/-- Reads a string after its opening quote. -/
def readString (text : List Char) : Except Problem (String × List Char) :=
  match readParts text with
  | some (parts, rest) => .ok (String.ofList (Text.ofPoints (partPoints parts)), rest)
  | none => .error .malformed

/-! ## Numbers -/

/-- The value of a list of ASCII digits. -/
def digitsValue (digits : List Char) : Nat :=
  Number.ofDigits (digits.map fun c => c.toNat - '0'.toNat)

/-- Reads the digits before the point: a zero, or digits that do not start with one. -/
def readWhole : List Char → Option (List Char × List Char)
  | '0' :: rest => some (['0'], rest)
  | c :: rest =>
    if c.isDigit then
      some (c :: rest.takeWhile Char.isDigit, rest.dropWhile Char.isDigit)
    else none
  | [] => none

/-- Reads the digits after a point, if a point with digits follows. -/
def readFraction : List Char → List Char × List Char
  | '.' :: rest =>
    match rest.takeWhile Char.isDigit with
    | [] => ([], '.' :: rest)
    | digits => (digits, rest.dropWhile Char.isDigit)
  | text => ([], text)

/-- Reads the digits of an exponent after its sign. -/
def readPower (negative : Bool) (text rest : List Char) : Option Int × List Char :=
  match rest.takeWhile Char.isDigit with
  | [] => (none, text)
  | digits =>
    let n : Int := digitsValue digits
    (some (if negative then -n else n), rest.dropWhile Char.isDigit)

/-- Reads an exponent, if one with digits follows. -/
def readExponent (text : List Char) : Option Int × List Char :=
  match text with
  | e :: rest =>
    if e = 'e' ∨ e = 'E' then
      match rest with
      | '-' :: digits => readPower true text digits
      | '+' :: digits => readPower false text digits
      | digits => readPower false text digits
    else (none, text)
  | [] => (none, text)

/-- Reads a number after its sign. -/
def readMagnitude (negative : Bool) (text : List Char) : Except Problem (Value × List Char) :=
  match readWhole text with
  | none => .error .malformed
  | some (whole, rest) =>
    let (fraction, rest) := readFraction rest
    let (exponent, rest) := readExponent rest
    if fraction.isEmpty && exponent.isNone then
      if Number.digitLimit < whole.length then .error .longInteger
      else
        let n : Int := digitsValue whole
        .ok (.int (if negative then -n else n), rest)
    else
      .ok (.float (.ofDecimal negative (digitsValue (whole ++ fraction))
        (exponent.getD 0 - fraction.length)), rest)

/-- The words of JSON and their values. -/
def words : List (String × Value) :=
  [("null", .null), ("true", .bool true), ("false", .bool false), ("NaN", .float (.nan 0)),
   ("Infinity", .float (.infinity false)), ("-Infinity", .float (.infinity true))]

/-- Reads a word. -/
def readWord (text : List Char) : Option (Value × List Char) :=
  words.findSome? fun (word, value) => (Text.afterWord? word text).map fun rest => (value, rest)

/-- Reads a value that holds no others: a string, a word or a number. -/
def readScalar (text : List Char) : Except Problem (Value × List Char) :=
  match text with
  | '\x22' :: rest => (readString rest).map fun (s, rest) => (.text s, rest)
  | _ =>
    match readWord text with
    | some found => .ok found
    | none =>
      match text with
      | '-' :: rest => readMagnitude true rest
      | _ => readMagnitude false text

/-! ## Values -/

mutual

/-- Reads a value at the start of a text; `room` is how deep lists and objects may still be
nested. -/
def readValue : Nat → Nat → List Char → Except Problem (Value × List Char)
  | 0, _, _ => .error .malformed
  | _ + 1, 0, '[' :: _ => .error .tooDeep
  | _ + 1, 0, '\x7b' :: _ => .error .tooDeep
  | fuel + 1, room + 1, '[' :: rest =>
    match skipSpaces rest with
    | ']' :: rest => .ok (.list [], rest)
    | text => (readItems fuel room text).map fun (items, rest) => (.list items, rest)
  | fuel + 1, room + 1, '\x7b' :: rest =>
    match skipSpaces rest with
    | '\x7d' :: rest => .ok (.map [], rest)
    | text =>
      (readMembers fuel room text).map fun (members, rest) =>
        (.map (Entries.ofAssignments members), rest)
  | _ + 1, _, text => readScalar text

/-- Reads the items of a list up to its closing bracket. -/
def readItems : Nat → Nat → List Char → Except Problem (List Value × List Char)
  | 0, _, _ => .error .malformed
  | fuel + 1, room, text => do
    let (item, rest) ← readValue fuel room text
    match skipSpaces rest with
    | ']' :: rest => return ([item], rest)
    | ',' :: rest =>
      let (items, rest) ← readItems fuel room (skipSpaces rest)
      return (item :: items, rest)
    | _ => throw .malformed

/-- Reads the members of an object up to its closing brace. -/
def readMembers : Nat → Nat → List Char →
    Except Problem (List (Value × Value) × List Char)
  | 0, _, _ => .error .malformed
  | fuel + 1, room, '\x22' :: rest => do
    let (name, rest) ← readString rest
    match skipSpaces rest with
    | ':' :: rest =>
      let (value, rest) ← readValue fuel room (skipSpaces rest)
      match skipSpaces rest with
      | '\x7d' :: rest => return ([(.text name, value)], rest)
      | ',' :: rest =>
        let (members, rest) ← readMembers fuel room (skipSpaces rest)
        return ((.text name, value) :: members, rest)
      | _ => throw .malformed
    | _ => throw .malformed
  | _ + 1, _, _ => .error .malformed

end

/-- Reads a whole text as one JSON value in which lists and objects are nested at most `room`
deep. -/
def read (room : Nat) (text : String) : Except Problem Value := do
  let start := skipSpaces text.toList
  let (value, rest) ← readValue (2 * start.length + 2) room start
  if (skipSpaces rest).isEmpty then return value else throw .malformed

end Json
end DocTable
