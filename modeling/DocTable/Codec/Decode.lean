/-
# Rows as documents

A cell of text that looks like a JSON list or object is read as one; text that cannot be read stays
as it is, and text that is nested too deeply is a fault. With declared fields at hand, text in
temporal positions becomes a point in time and a number in boolean positions a truth value, at every
depth where sub-fields are declared.
-/
import DocTable.Codec.Temporal
import DocTable.Json.Reader
import DocTable.Schema.Descriptor

namespace DocTable
namespace Codec

/-- Whether a text starts and ends with the given characters. -/
def isBetween (first last : Char) (text : List Char) : Bool :=
  text.head? == some first && text.getLast? == some last

/-- Whether a text looks like a JSON object or list. -/
def looksStructured (text : String) : Bool :=
  isBetween '\x7b' '\x7d' text.toList || isBetween '[' ']' text.toList

/-- How deep lists and objects may be nested in a cell. -/
def cellNesting : Nat := 990

/-- The value of a cell of text that looks like JSON. -/
def decodeStructured (s : String) : Except Fault Value :=
  match Json.read cellNesting s with
  | .ok v => .ok v
  | .error .tooDeep => .error .tooDeep
  | .error _ => .ok (.text s)

/-- The value of a cell. -/
def decodeValue : Value → Except Fault Value
  | .text s => if looksStructured s then decodeStructured s else .ok (.text s)
  | v => .ok v

mutual

/-- The value of a declared field as its descriptor has it. -/
def restore : Descriptor → Value → Value
  | ⟨kind, _, nested⟩, value =>
    match value with
    | .text s =>
      if kind = .temporal then ((readTemporal? s).map Value.timestamp).getD (.text s)
      else .text s
    | .int n => if kind = .boolean then .bool (n != 0) else .int n
    | .map entries =>
      match nested with
      | none => .map entries
      | some fields => .map (restoreFields fields entries)
    | value => value

/-- Entries in which the values of declared fields are as their descriptors have them. -/
def restoreFields : List (Value × Descriptor) → List (Value × Value) → List (Value × Value)
  | [], entries => entries
  | (name, d) :: rest, entries =>
    match Entries.get? name entries with
    | some value => restoreFields rest (Entries.put name (restore d value) entries)
    | none => restoreFields rest entries

end

/-- The cells of a row, decoded without declared fields. -/
def decodeCells : Entries → Except Fault Entries
  | [] => .ok []
  | (name, cell) :: row => do
    let value ← decodeValue cell
    return (name, value) :: (← decodeCells row)

/-- The document of a row. -/
def decodeRow (fields : Fields) (row : Entries) : Except Fault Entries := do
  return restoreFields fields (← decodeCells row)

/-- The documents of rows. -/
def decodeRows (fields : Fields) : List Entries → Except Fault (List Value)
  | [] => .ok []
  | row :: rows => do
    let document ← decodeRow fields row
    return .map document :: (← decodeRows fields rows)

end Codec
end DocTable
