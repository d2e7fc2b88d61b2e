/-
# Values

What a document holds: the dynamic values that fields, operands and statement parameters range over.
A mapping is the list of its entries in order of insertion; no two of its keys are equal.
-/
import DocTable.Number.Binary64
import DocTable.Number.Decimal
import DocTable.Calendar

namespace DocTable

/-- The canonical types of a declared field. -/
inductive FieldKind where
  /-- Text of bounded length. -/
  | text
  /-- Whole numbers. -/
  | integer
  /-- Truth values. -/
  | boolean
  /-- Dates and points in time. -/
  | temporal
  /-- Anything, stored as JSON. -/
  | structured
deriving DecidableEq

/-- The comparisons of a condition. -/
inductive Operator where
  /-- Equal to the operand. -/
  | equal
  /-- Different from the operand. -/
  | notEqual
  /-- Equal to one of the operand's elements. -/
  | memberOf
  /-- At most the operand. -/
  | atMost
  /-- At least the operand. -/
  | atLeast
  /-- Matched by the operand as a pattern. -/
  | matching
deriving DecidableEq

/-- The types of values that a definition can name. -/
inductive TypeMarker where
  | text | integer | boolean | timestamp | date | map | list | any | float | tuple | set | bytes
deriving DecidableEq

/-- A dynamic value. -/
inductive Value where
  /-- The absence of a value. -/
  | null
  /-- A truth value. -/
  | bool (b : Bool)
  /-- An integer of any size. -/
  | int (n : Int)
  /-- A binary number. -/
  | float (x : Binary64)
  /-- A decimal number. -/
  | decimal (x : Decimal)
  /-- A text. -/
  | text (s : String)
  /-- A byte string. -/
  | bytes (b : List UInt8)
  /-- A point in time. -/
  | timestamp (t : Timestamp)
  /-- A calendar date. -/
  | date (d : Date)
  /-- A sequence that can be changed. -/
  | list (items : List Value)
  /-- A sequence that cannot be changed. -/
  | tuple (items : List Value)
  /-- A set of at most one element. -/
  | set (items : List Value)
  /-- A mapping, in order of insertion. -/
  | map (entries : List (Value × Value))
  /-- The type of some values. -/
  | type (marker : TypeMarker)
  /-- A canonical field type. -/
  | kind (k : FieldKind)
  /-- A comparison. -/
  | operator (op : Operator)
  /-- A pattern, given by its source text. -/
  | pattern (source : String)
  /-- Something that yields one value after another, the last one for ever; `id` tells it from all
  others. -/
  | producer (id : Nat) (name : Option String) (yields : List Value)
  /-- What a store answers to a statement without rows: the identity of an inserted row and the
  number of rows affected. -/
  | outcome (insertedId : Option Int) (affected : Int)

instance : Inhabited Value := ⟨.null⟩

/-- The entries of a mapping. -/
abbrev Entries := List (Value × Value)

namespace FieldKind

/-- The name of a field type in descriptions. -/
def tag : FieldKind → String
  | text => "text"
  | integer => "integer"
  | boolean => "boolean"
  | temporal => "temporal"
  | structured => "structured"

/-- The name of a field type as a constant. -/
def constant : FieldKind → String
  | text => "TEXT"
  | integer => "INTEGER"
  | boolean => "BOOLEAN"
  | temporal => "TEMPORAL"
  | structured => "STRUCTURED"

end FieldKind

namespace Operator

/-- The spelling of a comparison in a statement. -/
def symbol : Operator → String
  | equal => "="
  | notEqual => "!="
  | memberOf => "IN"
  | atMost => "<="
  | atLeast => ">="
  | matching => "REGEXP"

/-- The name of a comparison as a constant. -/
def constant : Operator → String
  | equal => "EQ"
  | notEqual => "NE"
  | memberOf => "IN"
  | atMost => "LTE"
  | atLeast => "GTE"
  | matching => "REGEX"

end Operator

namespace TypeMarker

/-- The name of a type. -/
def name : TypeMarker → String
  | text => "str"
  | integer => "int"
  | boolean => "bool"
  | timestamp => "datetime"
  | date => "date"
  | map => "dict"
  | list => "list"
  | any => "object"
  | float => "float"
  | tuple => "tuple"
  | set => "set"
  | bytes => "bytes"

/-- The name of a type with the module it belongs to. -/
def qualifiedName : TypeMarker → String
  | timestamp => "datetime.datetime"
  | date => "datetime.date"
  | marker => marker.name

end TypeMarker

namespace Value

/-- Whether a value is a mapping. -/
def isMap : Value → Bool
  | map _ => true
  | _ => false

/-- Whether a value can be called without arguments. -/
def isCallable : Value → Bool
  | type _ => true
  | producer .. => true
  | _ => false

/-- Whether a value counts as true: all but nothing, zero and what is empty. -/
def isTruthy : Value → Bool
  | null => false
  | bool b => b
  | int n => n != 0
  | float x => !x.isZero
  | decimal x => !x.isZero
  | text s => !s.isEmpty
  | bytes b => !b.isEmpty
  | list items => !items.isEmpty
  | tuple items => !items.isEmpty
  | set items => !items.isEmpty
  | map entries => !entries.isEmpty
  | _ => true

/-- The value itself, or a replacement for one that does not count as true. -/
def orElse (v replacement : Value) : Value := if v.isTruthy then v else replacement

/-- A value as an occurrence of its own, told apart from all others if it is no number. -/
def occurring (occurrence : Nat) : Value → Value
  | float x => if x.isNaN then float (.nan occurrence) else float x
  | decimal (.nan negative signaling payload _) =>
    decimal (.nan negative signaling payload occurrence)
  | v => v

/-- The text of a text value. -/
def text? : Value → Option String
  | text s => some s
  | _ => none

/-- The name of the type of a value. -/
def typeName : Value → String
  | null => "NoneType"
  | bool _ => "bool"
  | int _ => "int"
  | float _ => "float"
  | decimal _ => "decimal.Decimal"
  | text _ => "str"
  | bytes _ => "bytes"
  | timestamp _ => "datetime.datetime"
  | date _ => "datetime.date"
  | list _ => "list"
  | tuple _ => "tuple"
  | set _ => "set"
  | map _ => "dict"
  | type _ => "type"
  | kind _ => "FieldType"
  | operator _ => "Operator"
  | pattern _ => "re.Pattern"
  | producer .. => "Producer"
  | outcome .. => "WriteOutcome"

end Value
end DocTable
