/-
# Points in time as text

Stored points in time are text of one form: date and time of day at offset zero, to the second. The
year is not padded. Reading accepts that form and two others, with a letter `T` between date and
time or with no time at all, and also some looser spellings of each part.
-/
import DocTable.Fault

namespace DocTable

namespace Timestamp

/-- The text of a clock reading, to the second. -/
def storageText (t : Timestamp) : String :=
  Nat.repr t.date.year ++ "-" ++ Text.padded 2 t.date.month ++ "-" ++ Text.padded 2 t.date.day
    ++ " " ++ Text.padded 2 t.hour ++ ":" ++ Text.padded 2 t.minute ++ ":"
    ++ Text.padded 2 t.second

end Timestamp

namespace Codec

/-- The text under which a point in time is stored. It fails where the clock at offset zero would
leave the years 1 to 9999. -/
def formatTimestamp (t : Timestamp) : Except Fault String :=
  match t.utc? with
  | some reading => .ok reading.storageText
  | none => .error (.outOfRange "date value out of range")

/-- The text under which a date is stored: that of its midnight. -/
def formatDate (d : Date) : String := (Timestamp.midnight d).storageText

/-- The fault of a value that is asked for its parts as a date and is none. The types of points in
time and of dates have such parts, but no numbers in them. -/
def notTemporal : Value → Fault
  | .type .timestamp => .unfit "the year of a type cannot be interpreted as an integer"
  | .type .date => .unfit "the year of a type cannot be interpreted as an integer"
  | v => .lacks v "year"

/-- The text under which a point in time or a date is stored; other values have none. -/
def formatTemporal : Value → Except Fault String
  | .timestamp t => formatTimestamp t
  | .date d => .ok (formatDate d)
  | v => .error (notTemporal v)

/-! ## Reading -/

/-- The parts of a temporal text. -/
inductive Part where
  /-- Four digits of a year. -/
  | year
  /-- One or two digits of a month. -/
  | month
  /-- One or two digits of a day, or a blank and a digit. -/
  | day
  /-- One or two digits of an hour. -/
  | hour
  /-- One or two digits of a minute. -/
  | minute
  /-- One or two digits of a second; two leap seconds pass here and fail as a time of day. -/
  | second
  /-- One or more blanks. -/
  | blanks
  /-- A character in either letter case. -/
  | mark (c : Char)

/-- A way to read a part: the number read and the characters after it. -/
abbrev Reading := Nat × List Char

/-- Reads one character that lies between two ASCII digits. -/
def digitBetween (low high : Char) : List Char → List Reading
  | c :: rest => if low ≤ c ∧ c ≤ high then [(c.toNat - '0'.toNat, rest)] else []
  | [] => []

/-- Reads one decimal digit of any script. -/
def anyDigit : List Char → List Reading
  | c :: rest => ((Text.decimalDigit? c).map fun d => (d, rest)).toList
  | [] => []

/-- Reads a tens digit and then a units digit. -/
def twoDigits (tens units : List Char → List Reading) (text : List Char) : List Reading :=
  (tens text).flatMap fun (t, rest) => (units rest).map fun (u, rest) => (10 * t + u, rest)

/-- The ways to read one or more blanks, the longest first. -/
def blankRuns : List Char → List Reading
  | c :: rest => if Text.isBlank c then blankRuns rest ++ [(0, rest)] else []
  | [] => []

/-- The ways to read a part at the start of a text, in order of preference. -/
def Part.readings (part : Part) (text : List Char) : List Reading :=
  match part with
  | year => twoDigits (twoDigits (twoDigits anyDigit anyDigit) anyDigit) anyDigit text
  | month =>
    twoDigits (digitBetween '1' '1') (digitBetween '0' '2') text
      ++ twoDigits (digitBetween '0' '0') (digitBetween '1' '9') text
      ++ digitBetween '1' '9' text
  | day =>
    twoDigits (digitBetween '3' '3') (digitBetween '0' '1') text
      ++ twoDigits (digitBetween '1' '2') anyDigit text
      ++ twoDigits (digitBetween '0' '0') (digitBetween '1' '9') text
      ++ digitBetween '1' '9' text
      ++ (match text with
          | ' ' :: rest => digitBetween '1' '9' rest
          | _ => [])
  | hour =>
    twoDigits (digitBetween '2' '2') (digitBetween '0' '3') text
      ++ twoDigits (digitBetween '0' '1') anyDigit text
      ++ anyDigit text
  | minute => twoDigits (digitBetween '0' '5') anyDigit text ++ anyDigit text
  | second =>
    twoDigits (digitBetween '6' '6') (digitBetween '0' '1') text
      ++ twoDigits (digitBetween '0' '5') anyDigit text
      ++ anyDigit text
  | blanks => blankRuns text
  | mark c =>
    match text with
    | d :: rest => if d.toLower = c.toLower then [(0, rest)] else []
    | [] => []

/-- Reads parts one after another: of the ways to read each part, the first that lets the rest be
read. -/
def readParts : List Part → List Char → Option (List Nat × List Char)
  | [], text => some ([], text)
  | part :: parts, text =>
    (part.readings text).findSome? fun (n, rest) =>
      (readParts parts rest).map fun (ns, rest) => (n :: ns, rest)

/-- The parts of a date. -/
def dateParts : List Part := [.year, .mark '-', .month, .mark '-', .day]

/-- The parts of a time of day. -/
def timeParts : List Part := [.hour, .mark ':', .minute, .mark ':', .second]

/-- The forms of a temporal text, in the order in which they are tried. -/
def temporalForms : List (List Part) :=
  [dateParts ++ .blanks :: timeParts, dateParts ++ .mark 'T' :: timeParts, dateParts]

/-- The clock reading of the numbers of a form, if there is such a day and time. -/
def ofNumbers? : List Nat → Option Timestamp
  | [year, _, month, _, day] =>
    let t := Timestamp.midnight ⟨year, month, day⟩
    if t.Valid then some t else none
  | [year, _, month, _, day, _, hour, _, minute, _, second] =>
    let t : Timestamp := ⟨⟨year, month, day⟩, hour, minute, second, 0, none⟩
    if t.Valid then some t else none
  | _ => none

/-- Reads a whole text by one form. -/
def readForm? (text : List Char) (form : List Part) : Option Timestamp :=
  match readParts form text with
  | some (numbers, []) => ofNumbers? numbers
  | _ => none

/-- Reads a temporal text: by the first form that gives a clock reading. -/
def readTemporal? (text : String) : Option Timestamp :=
  temporalForms.findSome? (readForm? text.toList)

end Codec
end DocTable
