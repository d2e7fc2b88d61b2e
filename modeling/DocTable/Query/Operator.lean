/-
# Names of comparisons

How a comparison is named in a condition, with or without dollar signs in front and in any letter
case, and which mappings are documents of such names.
-/
import DocTable.Value.Basic
import DocTable.Text.Basic
import DocTable.Text.Case

namespace DocTable
namespace Operator

/-- The names of the comparisons. -/
def names : List (String × Operator) :=
  [("eq", equal), ("equals", equal), ("ne", notEqual), ("in", memberOf), ("lte", atMost),
   ("gte", atLeast), ("regex", matching)]

/-- The word in a name: without the dollar signs in front, in lower case. -/
def word (name : String) : String := Text.lower (Text.dropLeading '$' name)

/-- The comparison that a value names. -/
def resolve? : Value → Option Operator
  | .operator op => some op
  | .text name => names.lookup (word name)
  | _ => none

/-- Whether a value is a text that starts with a dollar sign. -/
def isMarkedName : Value → Bool
  | .text name => name.toList.head? == some '$'
  | _ => false

/-- Whether a value is a mapping of comparisons: not empty, and every key marked as a name. -/
def isDocument : Value → Bool
  | .map entries => !entries.isEmpty && entries.all fun entry => isMarkedName entry.1
  | _ => false

end Operator
end DocTable
