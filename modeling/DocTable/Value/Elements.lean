/-
# Elements of a value

Which values hold elements, what the elements are, and which values can stand as keys. A mapping
holds its keys, a text its characters and a byte string its bytes.
-/
import DocTable.Fault

namespace DocTable
namespace Value

/-- The elements of a value, if it holds any at all. -/
def elements? : Value → Option (List Value)
  | list items => some items
  | tuple items => some items
  | set items => some items
  | map entries => some (entries.map Prod.fst)
  | text s => some ((Text.pieces s.toList).map text)
  | bytes b => some (b.map fun byte => int byte.toNat)
  | _ => none

mutual

/-- Whether a value can be the key of a mapping: nothing in it can be changed, and it can be
compared with all other keys. -/
def canBeKey : Value → Bool
  | decimal x => !x.isSignaling
  | list _ => false
  | set _ => false
  | map _ => false
  | tuple items => allCanBeKey items
  | _ => true

/-- Whether all of some values can be keys. -/
def allCanBeKey : List Value → Bool
  | [] => true
  | item :: items => canBeKey item && allCanBeKey items

end

/-- The fault of a value that holds no elements. -/
def notIterable (v : Value) : Fault := .unfit ("'" ++ v.typeName ++ "' object is not iterable")

/-- A key and a value out of a value that holds exactly two elements. -/
def asPair (v : Value) : Except Fault (Value × Value) :=
  match v.elements? with
  | some [key, value] =>
    if key.canBeKey then .ok (key, value)
    else .error (.unfit ("unhashable type: '" ++ key.typeName ++ "'"))
  | some _ => .error (.meaningless "a sequence element is not a pair")
  | none => .error (.unfit "a sequence element is not a sequence")

/-- A mapping from a value: its entries if it is a mapping, otherwise its elements taken as
pairs. -/
def asEntries : Value → Except Fault Entries
  | map entries => .ok entries
  | v =>
    match v.elements? with
    | some items => do return Entries.ofAssignments (← items.mapM asPair)
    | none => .error v.notIterable

/-- The entries of a mapping; no other value has any. -/
def entries : Value → Except Fault Entries
  | map es => .ok es
  | type .map => .error (.unfit "the type of mappings has no entries of its own")
  | v => .error (.lacks v "items")

end Value
end DocTable
