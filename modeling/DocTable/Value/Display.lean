/-
# Values as text

The two texts of a value: the plain one, in which a text is itself, and the shown one, in which it
stands between quotes. Items of a sequence and entries of a mapping are always shown.
-/
import DocTable.Value.Basic
import DocTable.Text.PatternFlags
import DocTable.Text.Quoted
import DocTable.Number.Shortest

namespace DocTable
namespace Value

/-- A list of numbers as the arguments of a call. -/
def argumentList (arguments : List Nat) : String :=
  String.intercalate ", " (arguments.map Nat.repr)

/-- A date as the call that makes it. -/
def showDate (d : Date) : String :=
  "datetime.date(" ++ argumentList [d.year, d.month, d.day] ++ ")"

/-- An offset as the call that makes it: whole days and the seconds after them. -/
def showOffset (offset : Int) : String :=
  if offset = 0 then "datetime.timezone.utc"
  else
    "datetime.timezone(datetime.timedelta("
      ++ (if offset < 0 then "days=-1, seconds=" ++ Int.repr (offset + 86400)
          else "seconds=" ++ Int.repr offset)
      ++ "))"

/-- A point in time as the call that makes it: seconds and microseconds are left out when zero. -/
def showTimestamp (t : Timestamp) : String :=
  "datetime.datetime("
    ++ argumentList ([t.date.year, t.date.month, t.date.day, t.hour, t.minute]
        ++ (if t.second = 0 ∧ t.micro = 0 then []
            else if t.micro = 0 then [t.second] else [t.second, t.micro]))
    ++ (match t.offset with
        | none => ""
        | some offset => ", tzinfo=" ++ showOffset offset)
    ++ ")"

/-- The longest pattern source that is shown whole, quotes included. -/
def shownPatternLength : Nat := 200

/-- A pattern as the call that makes it; a long source is cut, and flags at its start are named
again. -/
def showPattern (source : String) : String :=
  let flags := Text.patternFlags source
  "re.compile("
    ++ String.ofList ((Text.quoted source).toList.take shownPatternLength)
    ++ (if flags.isEmpty then "" else ", " ++ String.intercalate "|" flags)
    ++ ")"

mutual

/-- The shown text of a value. -/
def shown : Value → String
  | null => "None"
  | bool b => if b then "True" else "False"
  | int n => Int.repr n
  | float x => x.text Binary64.shownNames
  | decimal x => "Decimal('" ++ x.text ++ "')"
  | text s => Text.quoted s
  | bytes b => Text.quotedBytes b
  | timestamp t => showTimestamp t
  | date d => showDate d
  | list items => "[" ++ String.intercalate ", " (shownItems items) ++ "]"
  | tuple items =>
    match items with
    | [item] => "(" ++ shown item ++ ",)"
    | items => "(" ++ String.intercalate ", " (shownItems items) ++ ")"
  | set items =>
    if items.isEmpty then "set()"
    else "\x7b" ++ String.intercalate ", " (shownItems items) ++ "\x7d"
  | map entries => "\x7b" ++ String.intercalate ", " (shownEntries entries) ++ "\x7d"
  | type marker => "<class '" ++ marker.qualifiedName ++ "'>"
  | kind k => "<FieldType." ++ k.constant ++ ": '" ++ k.tag ++ "'>"
  | operator op => "<Operator." ++ op.constant ++ ": '" ++ op.symbol ++ "'>"
  | pattern source => showPattern source
  | producer .. => "<producer>"
  | outcome insertedId affected =>
    "WriteOutcome(inserted_id=" ++ (match insertedId with
      | none => "None"
      | some id => Int.repr id) ++ ", affected_count=" ++ Int.repr affected ++ ")"

/-- The shown texts of the items of a sequence. -/
def shownItems : List Value → List String
  | [] => []
  | item :: items => shown item :: shownItems items

/-- The shown texts of the entries of a mapping. -/
def shownEntries : List (Value × Value) → List String
  | [] => []
  | (key, value) :: entries => (shown key ++ ": " ++ shown value) :: shownEntries entries

end

/-- The plain text of a value. -/
def plain : Value → String
  | text s => s
  | decimal x => x.text
  | timestamp t => t.text
  | date d => d.text
  | kind k => "FieldType." ++ k.constant
  | operator op => "Operator." ++ op.constant
  | value => shown value

end Value
end DocTable
