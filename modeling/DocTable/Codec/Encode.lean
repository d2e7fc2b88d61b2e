/-
# Documents as column values

What a value becomes when it is stored or given to a statement: points in time become text,
sequences and mappings JSON text, and all else stays as it is. A document becomes the list of its
entries with encoded values, after its defaults have been filled in.
-/
import DocTable.Codec.Defaults
import DocTable.Json.Printer

namespace DocTable
namespace Codec

/-- The stored form of a value. -/
def encodeValue : Value → Except Fault Value
  | .timestamp t => do return .text (← formatTimestamp t)
  | .date d => .ok (.text (formatDate d))
  | .list items => do return .text (← Json.print (.list items))
  | .tuple items => do return .text (← Json.print (.tuple items))
  | .set items => do return .text (← Json.print (.set items))
  | .map entries => do return .text (← Json.print (.map entries))
  | v => .ok v

/-- Entries with their values in stored form. -/
def encodeEntries : List (Value × Value) → Except Fault (List (Value × Value))
  | [] => .ok []
  | (name, value) :: rest => do
    let first ← encodeValue value
    return (name, first) :: (← encodeEntries rest)

/-- A document with its defaults filled in, and its entries in stored form. -/
structure Encoding where
  /-- The document as it is left. -/
  document : Value
  /-- The draws from producers so far. -/
  draws : Draws
  /-- The names and stored values in order, or what prevented them. -/
  pairs : Except Fault (List (Value × Value))

/-- The stored form of a whole document. -/
def storedPairs (document : Value) : Except Fault (List (Value × Value)) := do
  encodeEntries (← document.entries)

/-- Fills in the defaults of a document and encodes it. -/
def encodeDocument (fields : Fields) (document : Value) (draws : Draws) : Encoding :=
  let filling := fillFields fields document draws.anew
  { document := filling.document
    draws := filling.draws
    pairs := match filling.fault with
      | some fault => .error fault
      | none => storedPairs filling.document }

/-- Encodes documents one after another, up to the first that cannot be encoded. Each goes on with
the draws that the one before it has left. -/
def encodeDocuments (fields : Fields) : List Value → Draws → Except Fault (List Encoding)
  | [], _ => .ok []
  | document :: rest, draws => do
    let encoding := encodeDocument fields document draws
    let _ ← encoding.pairs
    return encoding :: (← encodeDocuments fields rest encoding.draws)

end Codec
end DocTable
