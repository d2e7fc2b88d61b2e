/-
# Structures in cells

A sequence or a mapping is stored as its JSON text, and a text that looks like JSON is read when
the cell is decoded. The text of a structure always looks like one, so what comes back is what the
reader gives: the JSON form of the value as long as the value keeps within the bounds of the reader,
and nothing of the kind beyond them.
-/
import DocTable.Codec.Decode
import DocTable.Codec.Encode
import DocTable.Proofs.Json.RoundTrip

namespace DocTable
namespace Codec

open Value Json

/-! ## The cell of a structure -/

lemma isBetween_of_toList {first last : Char} (body : List Char) {s : String}
    (h : s.toList = first :: (body ++ [last])) : isBetween first last s.toList = true := by
  rw [h, isBetween, List.getLast?_cons, List.getLast?_append]
  simp

lemma looksStructured_list {items : List Value} {s : String}
    (hs : print (.list items) = .ok s) : looksStructured s = true := by
  obtain ⟨texts, -, rfl⟩ := print_list_eq_ok.1 hs
  have hbetween : isBetween '[' ']' ("[" ++ String.intercalate "," texts ++ "]").toList = true :=
    isBetween_of_toList (commaText texts) (by simp [commaText])
  rw [looksStructured, hbetween, Bool.or_true]

lemma looksStructured_map {entries : Entries} {s : String}
    (hs : print (.map entries) = .ok s) : looksStructured s = true := by
  obtain ⟨texts, -, rfl⟩ := print_map_eq_ok.1 hs
  have hbetween :
      isBetween '\x7b' '\x7d' ("\x7b" ++ String.intercalate "," texts ++ "\x7d").toList = true :=
    isBetween_of_toList (commaText texts) (by simp [commaText])
  rw [looksStructured, hbetween, Bool.true_or]

/-- The text of a structure looks like one. -/
lemma looksStructured_print {v : Value} (hstruct : v.isStructure) {s : String}
    (hs : print v = .ok s) : looksStructured s = true := by
  cases v with
  | list items => exact looksStructured_list hs
  | tuple items => exact looksStructured_list (print_tuple items ▸ hs)
  | map entries => exact looksStructured_map hs
  | _ => cases hstruct

lemma encodeValue_of_isStructure {v : Value} (hstruct : v.isStructure) {s : String}
    (hs : print v = .ok s) : encodeValue v = .ok (.text s) := by
  cases v with
  | list items => rw [encodeValue, hs]; rfl
  | tuple items => rw [encodeValue, hs]; rfl
  | map entries => rw [encodeValue, hs]; rfl
  | _ => cases hstruct

/-- What the cell of a text is decoded to, given what reading the text gives. -/
def afterReading (s : String) : Except Problem Value → Except Fault Value
  | .ok v => .ok v
  | .error .tooDeep => .error .tooDeep
  | .error _ => .ok (.text s)

/-- The cell of a structure is decoded to what is read back of the structure. -/
lemma decodeValue_encodeValue_eq {v : Value} (hv : v.Portable) (hstruct : v.isStructure) :
    ∃ s, print v = .ok s ∧ encodeValue v = .ok (.text s) ∧
      decodeValue (.text s) = afterReading s (readBack cellNesting v) := by
  obtain ⟨s, hs⟩ := exists_print hv
  refine ⟨s, hs, encodeValue_of_isStructure hstruct hs, ?_⟩
  rw [decodeValue, if_pos (looksStructured_print hstruct hs), decodeStructured, read_print hv hs]
  rfl

/-- A list in a list in a list, and so on, as many more times as given. -/
def tower : Nat → Value
  | 0 => .list []
  | n + 1 => .list [tower n]

lemma tower_portable (n : Nat) : (tower n).Portable := by
  induction n with
  | zero => exact .list (by simp)
  | succ n ih => exact .list (by simpa using ih)

end Codec
end DocTable
