/-
# Values as documents

A document is a mapping, but any value can be given for one. These are the three things that filling
in defaults asks of a document: whether it holds a name, what it holds there, and to set it. A
sequence is asked for its items and a text for its parts.
-/
import DocTable.Value.Elements

namespace DocTable
namespace Value

/-- The place that a value names in a sequence of the given length; negative numbers count from the
end. -/
def index? (length : Nat) (name : Value) : Except Fault Nat :=
  let place (n : Int) : Except Fault Nat :=
    let k := if n < 0 then n + length else n
    if 0 ≤ k ∧ k < length then .ok k.toNat else .error .noItem
  match name with
  | int n => place n
  | bool b => place b.toInt
  | v => .error (.unfit ("sequence indices must be integers, not " ++ v.typeName))

/-- Whether a name is in a byte string, as a byte or as a part. -/
def bytesHold (b : List UInt8) : Value → Except Fault Bool
  | int n =>
    if 0 ≤ n ∧ n < 256 then .ok (b.contains (UInt8.ofNat n.toNat))
    else .error (.meaningless "byte must be in range(0, 256)")
  | bool flag => .ok (b.contains (if flag then 1 else 0))
  | bytes part => .ok (Text.occurs part b)
  | v => .error (.unfit ("a bytes-like object is required, not '" ++ v.typeName ++ "'"))

/-- Whether one of some items matches a name, up to the first that does or cannot be compared. -/
def itemsHold (name : Value) : List Value → Except Fault Bool
  | [] => .ok false
  | item :: items =>
    match item.matches? name with
    | some true => .ok true
    | some false => itemsHold name items
    | none => .error .incomparable

/-- Whether a document holds a name. -/
def holds (document name : Value) : Except Fault Bool :=
  match document with
  | map es => .ok (Entries.has name es)
  | list items => itemsHold name items
  | tuple items => itemsHold name items
  | set items => itemsHold name items
  | text s =>
    match name with
    | text part => .ok (Text.contains s part)
    | v => .error (.unfit ("'in <string>' requires string as left operand, not " ++ v.typeName))
  | bytes b => bytesHold b name
  | v => .error (.unfit ("argument of type '" ++ v.typeName ++ "' is not iterable"))

/-- What a document holds under a name that it holds. -/
def item (document name : Value) : Except Fault Value :=
  match document with
  | map es =>
    match Entries.get? name es with
    | some v => .ok v
    | none => .error .noItem
  | list items => do return (items[← index? items.length name]?).getD null
  | tuple items => do return (items[← index? items.length name]?).getD null
  | text s => do
    let pieces := Text.pieces s.toList
    return ((pieces[← index? pieces.length name]?).map text).getD null
  | bytes b => do
    return ((b[← index? b.length name]?).map fun byte => int byte.toNat).getD null
  | v => .error (.unfit ("'" ++ v.typeName ++ "' object is not subscriptable"))

/-- A document with a name set to a value. -/
def assign (document name value : Value) : Except Fault Value :=
  match document with
  | map es => .ok (map (Entries.put name value es))
  | list items => do return list (items.set (← index? items.length name) value)
  | v => .error (.unfit ("'" ++ v.typeName ++ "' object does not support item assignment"))

/-- A document in which the value under a name that it holds has changed. -/
def replaced (document name value : Value) : Value :=
  match document with
  | map es => map (Entries.put name value es)
  | list items =>
    match index? items.length name with
    | .ok i => list (items.set i value)
    | .error _ => list items
  | tuple items =>
    match index? items.length name with
    | .ok i => tuple (items.set i value)
    | .error _ => tuple items
  | v => v

end Value
end DocTable
