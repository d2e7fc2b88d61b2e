/-
# Values with a stored form

A value has no stored form in two cases only: it is or holds a point in time whose clock at offset
zero would leave the calendar, or it holds a mapping with a key that cannot be the key of a JSON
object. Everything else is stored, however it is nested.
-/
import DocTable.Codec.Encode
import DocTable.Proofs.Steps

namespace DocTable
namespace Value

/-- Whether a value can be the key of a JSON object. -/
def isJsonKey : Value → Bool
  | text _ => true
  | null => true
  | bool _ => true
  | int _ => true
  | float _ => true
  | _ => false

mutual

/-- Whether a value has a stored form. -/
def isEncodable : Value → Bool
  | timestamp t => t.utc?.isSome
  | list items => allEncodable items
  | tuple items => allEncodable items
  | set items => allEncodable items
  | map entries => entriesEncodable entries
  | _ => true

/-- Whether all items of a sequence have a stored form. -/
def allEncodable : List Value → Bool
  | [] => true
  | item :: items => isEncodable item && allEncodable items

/-- Whether the entries of a mapping have a stored form. -/
def entriesEncodable : List (Value × Value) → Bool
  | [] => true
  | (key, value) :: entries => isJsonKey key && isEncodable value && entriesEncodable entries

end

end Value

namespace Json

lemma succeeds_keyText_iff {key : Value} : Succeeds (keyText key) ↔ key.isJsonKey = true := by
  cases key <;> simp [keyText, Value.isJsonKey]

lemma succeeds_formatTimestamp_iff {t : Timestamp} :
    Succeeds (Codec.formatTimestamp t) ↔ t.utc?.isSome = true := by
  rw [Codec.formatTimestamp]
  cases t.utc? <;> simp

mutual

/-- A value has a JSON text exactly if it has a stored form. -/
lemma succeeds_print_iff : ∀ {v : Value}, Succeeds (print v) ↔ v.isEncodable = true
  | .timestamp t => by
    rw [print, Value.isEncodable, ← succeeds_formatTimestamp_iff]
    exact succeeds_bind_ok_iff
  | .list items => by
    rw [print, Value.isEncodable, ← succeeds_printItems_iff]
    exact succeeds_bind_ok_iff
  | .tuple items => by
    rw [print, Value.isEncodable, ← succeeds_printItems_iff]
    exact succeeds_bind_ok_iff
  | .set items => by
    rw [print, Value.isEncodable, ← succeeds_printItems_iff]
    exact succeeds_bind_ok_iff
  | .map entries => by
    rw [print, Value.isEncodable, ← succeeds_printEntries_iff]
    exact succeeds_bind_ok_iff
  | .null | .bool _ | .int _ | .float _ | .text _ | .date _ | .decimal _ | .bytes _ | .type _
  | .kind _ | .operator _ | .pattern _ | .producer .. | .outcome .. => by
    simp [print, Value.isEncodable]

lemma succeeds_printItems_iff :
    ∀ {items : List Value}, Succeeds (printItems items) ↔ Value.allEncodable items = true
  | [] => by simp [printItems, Value.allEncodable]
  | item :: items => by
    rw [printItems, Value.allEncodable, Bool.and_eq_true, ← succeeds_print_iff,
      ← succeeds_printItems_iff]
    exact succeeds_bind_iff fun text _ => succeeds_bind_ok_iff

lemma succeeds_printEntries_iff :
    ∀ {entries : Entries}, Succeeds (printEntries entries) ↔ Value.entriesEncodable entries = true
  | [] => by simp [printEntries, Value.entriesEncodable]
  | (key, value) :: entries => by
    rw [printEntries, Value.entriesEncodable, Bool.and_eq_true, Bool.and_eq_true, and_assoc,
      ← succeeds_keyText_iff, ← succeeds_print_iff, ← succeeds_printEntries_iff]
    exact succeeds_bind_iff fun name _ => succeeds_bind_iff fun text _ => succeeds_bind_ok_iff

end

end Json

namespace Codec

/-- A value can be stored exactly if it has a stored form. -/
lemma succeeds_encodeValue_iff {v : Value} : Succeeds (encodeValue v) ↔ v.isEncodable = true := by
  cases v with
  | timestamp t =>
    rw [encodeValue, Value.isEncodable, ← Json.succeeds_formatTimestamp_iff]
    exact succeeds_bind_ok_iff
  | list items => rw [encodeValue, ← Json.succeeds_print_iff]; exact succeeds_bind_ok_iff
  | tuple items => rw [encodeValue, ← Json.succeeds_print_iff]; exact succeeds_bind_ok_iff
  | set items => rw [encodeValue, ← Json.succeeds_print_iff]; exact succeeds_bind_ok_iff
  | map entries => rw [encodeValue, ← Json.succeeds_print_iff]; exact succeeds_bind_ok_iff
  | _ => simp [encodeValue, Value.isEncodable]

end Codec
end DocTable
