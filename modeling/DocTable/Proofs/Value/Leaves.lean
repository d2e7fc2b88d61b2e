/-
# The leaves of a value

A test of the values that hold no others, made of all of them in a value: of the items of sequences
and sets and of the values of mappings, at every depth. Keys of mappings are not looked at.
-/
import DocTable.Value.Basic
import Mathlib.Tactic.Common

namespace DocTable
namespace Value

mutual

/-- Whether all leaves of a value pass a test. -/
def allLeaves (test : Value → Bool) : Value → Bool
  | list items => allLeavesOfItems test items
  | tuple items => allLeavesOfItems test items
  | set items => allLeavesOfItems test items
  | map entries => allLeavesOfEntries test entries
  | v => test v

/-- Whether all leaves of some items pass a test. -/
def allLeavesOfItems (test : Value → Bool) : List Value → Bool
  | [] => true
  | v :: vs => allLeaves test v && allLeavesOfItems test vs

/-- Whether all leaves of the values of some entries pass a test. -/
def allLeavesOfEntries (test : Value → Bool) : List (Value × Value) → Bool
  | [] => true
  | (_, v) :: es => allLeaves test v && allLeavesOfEntries test es

end

variable {test : Value → Bool}

lemma allLeavesOfItems_iff {items : List Value} :
    allLeavesOfItems test items = true ↔ ∀ v ∈ items, v.allLeaves test = true := by
  induction items with
  | nil => simp [allLeavesOfItems]
  | cons v vs ih => simp [allLeavesOfItems, ih]

lemma allLeavesOfEntries_iff {entries : Entries} :
    allLeavesOfEntries test entries = true ↔ ∀ e ∈ entries, e.2.allLeaves test = true := by
  induction entries with
  | nil => simp [allLeavesOfEntries]
  | cons e es ih => simp [allLeavesOfEntries, ih]

lemma allLeaves_list_iff {items : List Value} :
    (list items).allLeaves test = true ↔ ∀ v ∈ items, v.allLeaves test = true := by
  rw [allLeaves, allLeavesOfItems_iff]

lemma allLeaves_map_iff {entries : Entries} :
    (map entries).allLeaves test = true ↔ ∀ e ∈ entries, e.2.allLeaves test = true := by
  rw [allLeaves, allLeavesOfEntries_iff]

end Value
end DocTable
