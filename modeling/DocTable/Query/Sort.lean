/-
# Sort keys

A sort key is a path and a direction. The direction is ascending unless it is asked to descend: by
one of three words in any letter case, or by the number minus one.
-/
import DocTable.Query.Path
import DocTable.Value.Equality

namespace DocTable

/-- The words for the descending direction. -/
def descendingWords : List String := ["desc", "descending", "-1"]

/-- Whether a direction asks to descend. -/
def isDescending : Value → Bool
  | .text word => descendingWords.contains (Text.lower word)
  | .int n => n == -1
  | .float x => (Value.float x).same (.int (-1))
  | _ => false

/-- The word for a direction in a statement. -/
def sortDirection (direction : Value) : String := if isDescending direction then "DESC" else "ASC"

/-- The expression of a sort key; a path of another type is taken by its text. -/
def compileSort (d : Dialect) (path direction : Value) : String :=
  Path.compile d path.plain ++ " " ++ sortDirection direction

end DocTable
