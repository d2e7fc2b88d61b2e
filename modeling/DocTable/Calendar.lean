/-
# Dates and points in time

The calendar that repeats every four hundred years. A date is numbered by the days since the first
day of the year one, and a point in time with an offset by the seconds since that day's midnight at
offset zero. Points in time without an offset are read off a clock as they are.
-/
import DocTable.Text.Basic

namespace DocTable

/-- A calendar date. -/
structure Date where
  /-- The year, from 1 to 9999. -/
  year : Nat
  /-- The month, from 1 to 12. -/
  month : Nat
  /-- The day of the month, from 1. -/
  day : Nat
deriving DecidableEq

/-- A point in time: a date, a time of day and perhaps an offset. -/
structure Timestamp where
  /-- The date. -/
  date : Date
  /-- The hour, from 0 to 23. -/
  hour : Nat
  /-- The minute, from 0 to 59. -/
  minute : Nat
  /-- The second, from 0 to 59. -/
  second : Nat
  /-- The microsecond, below one million. -/
  micro : Nat
  /-- How many seconds the clock is ahead of offset zero; a plain clock reading has none. -/
  offset : Option Int
deriving DecidableEq

namespace Date

/-- Whether a year has a leap day. -/
def isLeap (year : Nat) : Bool := year % 4 == 0 && (year % 100 != 0 || year % 400 == 0)

/-- The lengths of the months of a year. -/
def monthLengths (year : Nat) : List Nat :=
  [31, if isLeap year then 29 else 28, 31, 30, 31, 30, 31, 31, 30, 31, 30, 31]

/-- The length of a month, zero if there is no such month. -/
def monthLength (year month : Nat) : Nat :=
  if month = 0 then 0 else ((monthLengths year)[month - 1]?).getD 0

/-- A date of the years 1 to 9999. -/
def Valid (d : Date) : Prop :=
  1 ≤ d.year ∧ d.year ≤ 9999 ∧ 1 ≤ d.month ∧ d.month ≤ 12 ∧ 1 ≤ d.day ∧
    d.day ≤ monthLength d.year d.month

instance (d : Date) : Decidable d.Valid := by unfold Valid; infer_instance

/-- The days from the first day of the year one to the first day of a year. -/
def daysBeforeYear (year : Nat) : Nat :=
  let past := year - 1
  past * 365 + past / 4 - past / 100 + past / 400

/-- The days from the first day of a year to the first day of a month of it. -/
def daysBeforeMonth (year month : Nat) : Nat :=
  ((monthLengths year).take (month - 1)).foldl (· + ·) 0

/-- The days from the first day of the year one. -/
def dayNumber (d : Date) : Nat :=
  daysBeforeYear d.year + daysBeforeMonth d.year d.month + (d.day - 1)

/-- The month and the day of the month at a distance from the start of the first of the listed
months. -/
def monthAndDay (month : Nat) : List Nat → Nat → Nat × Nat
  | [], rest => (month, rest + 1)
  | length :: lengths, rest =>
    if rest < length then (month, rest + 1) else monthAndDay (month + 1) lengths (rest - length)

/-- The year that holds a day number, and the days of that year before it. Centuries and years that
end a longer cycle are one day longer than the rest. -/
def yearAndDay (n : Nat) : Nat × Nat :=
  let cycle := n % 146097
  let century := min (cycle / 36524) 3
  let inCentury := cycle - century * 36524
  let four := inCentury / 1461
  let inFour := inCentury % 1461
  let one := min (inFour / 365) 3
  (n / 146097 * 400 + century * 100 + four * 4 + one + 1, inFour - one * 365)

/-- The date with a given day number. -/
def ofDayNumber (n : Nat) : Date :=
  let (year, rest) := yearAndDay n
  let (month, day) := monthAndDay 1 (monthLengths year) rest
  ⟨year, month, day⟩

/-- The number of days of the years 1 to 9999. -/
def dayCount : Nat := 3652059

/-- The text of a date: four, two and two digits. -/
def text (d : Date) : String :=
  Text.padded 4 d.year ++ "-" ++ Text.padded 2 d.month ++ "-" ++ Text.padded 2 d.day

end Date

namespace Timestamp

/-- A clock reading within a day of the years 1 to 9999. -/
def Valid (t : Timestamp) : Prop :=
  t.date.Valid ∧ t.hour < 24 ∧ t.minute < 60 ∧ t.second < 60 ∧ t.micro < 1000000

instance (t : Timestamp) : Decidable t.Valid := by unfold Valid; infer_instance

/-- The seconds of the day before a point in time. -/
def secondOfDay (t : Timestamp) : Nat := t.hour * 3600 + t.minute * 60 + t.second

/-- The seconds from the first midnight of the year one by the clock, whatever its offset. -/
def clockSeconds (t : Timestamp) : Nat := t.date.dayNumber * 86400 + t.secondOfDay

/-- The seconds from the first midnight of the year one at offset zero; a plain clock reading is
taken to be at offset zero. -/
def utcSeconds (t : Timestamp) : Int := (t.clockSeconds : Int) - t.offset.getD 0

/-- The clock reading a number of seconds after the first midnight of the year one. -/
def ofSeconds (n micro : Nat) : Timestamp :=
  let rest := n % 86400
  ⟨Date.ofDayNumber (n / 86400), rest / 3600, rest / 60 % 60, rest % 60, micro, none⟩

/-- The clock reading at offset zero of a point in time with an offset, and a plain clock reading as
it is; none outside the years 1 to 9999. -/
def utc? (t : Timestamp) : Option Timestamp :=
  match t.offset with
  | none => some t
  | some _ =>
    let n := t.utcSeconds
    if 0 ≤ n ∧ n < (Date.dayCount * 86400 : Nat) then some (ofSeconds n.toNat t.micro) else none

/-- Midnight of a date. -/
def midnight (d : Date) : Timestamp := ⟨d, 0, 0, 0, 0, none⟩

/-- Whether two points in time are the same: two clock readings, or two instants. A clock reading is
never the same as an instant. -/
def same (a b : Timestamp) : Bool :=
  match a.offset, b.offset with
  | none, none => a == b
  | some _, some _ => a.utcSeconds == b.utcSeconds && a.micro == b.micro
  | _, _ => false

/-- An offset as a sign, hours and minutes, and seconds if there are any. -/
def offsetText (offset : Int) : String :=
  let n := offset.natAbs
  (if offset < 0 then "-" else "+") ++ Text.padded 2 (n / 3600) ++ ":"
    ++ Text.padded 2 (n / 60 % 60)
    ++ (if n % 60 = 0 then "" else ":" ++ Text.padded 2 (n % 60))

/-- The text of a point in time: date, time of day, microseconds if there are any, offset if there
is one. -/
def text (t : Timestamp) : String :=
  t.date.text ++ " " ++ Text.padded 2 t.hour ++ ":" ++ Text.padded 2 t.minute ++ ":"
    ++ Text.padded 2 t.second
    ++ (if t.micro = 0 then "" else "." ++ Text.padded 6 t.micro)
    ++ (match t.offset with
        | none => ""
        | some offset => offsetText offset)

end Timestamp
end DocTable
