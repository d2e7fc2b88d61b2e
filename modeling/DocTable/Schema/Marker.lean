/-
# Type markers

How a field type is named in a definition: by itself, by the type of its values, or by a word in any
letter case. What is not recognised is stored as it is.
-/
import DocTable.Value.Basic
import DocTable.Text.Case

namespace DocTable
namespace FieldKind

/-- The field type of the values of a type. -/
def ofType : TypeMarker → FieldKind
  | .text => text
  | .integer => integer
  | .boolean => boolean
  | .timestamp => temporal
  | .date => temporal
  | _ => structured

/-- The words that name a field type. -/
def words : List (String × FieldKind) :=
  [("string", text), ("str", text), ("text", text),
   ("number", integer), ("int", integer), ("integer", integer),
   ("boolean", boolean), ("bool", boolean),
   ("date", temporal), ("datetime", temporal), ("temporal", temporal), ("timestamp", temporal),
   ("object", structured), ("mixed", structured), ("json", structured), ("array", structured),
   ("structured", structured)]

/-- The field type that a word names, blanks around it and letter case aside. -/
def ofWord (word : String) : FieldKind :=
  (words.lookup (Text.lower (Text.trim word))).getD structured

/-- The field type that a marker names. -/
def ofMarker : Value → FieldKind
  | .kind k => k
  | .type marker => ofType marker
  | .text word => ofWord word
  | _ => structured

end FieldKind
end DocTable
