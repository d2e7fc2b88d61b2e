/-
# Looking up and setting entries

The operations of an ordered mapping. Setting a key that is present keeps its place and its
spelling; a new key goes to the end.
-/
import DocTable.Value.Equality

namespace DocTable
namespace Entries

/-- The value of a key. -/
def get? (key : Value) : Entries → Option Value
  | [] => none
  | (k, v) :: rest => if k.same key then some v else get? key rest

/-- Whether a key is present. -/
def has (key : Value) (entries : Entries) : Bool := (get? key entries).isSome

/-- The entries with a key set to a value. -/
def put (key value : Value) : Entries → Entries
  | [] => [(key, value)]
  | (k, v) :: rest => if k.same key then (k, value) :: rest else (k, v) :: put key value rest

/-- The keys in order. -/
def keys (entries : Entries) : List Value := entries.map Prod.fst

/-- The mapping that a sequence of assignments leaves, the last one of a key winning. -/
def ofAssignments (pairs : List (Value × Value)) : Entries :=
  pairs.foldl (fun entries pair => put pair.1 pair.2 entries) []

end Entries
end DocTable
