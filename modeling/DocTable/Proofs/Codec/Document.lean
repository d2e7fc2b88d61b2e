/-
# Documents stored as rows

A document is encoded entry by entry after its defaults have been filled in, and its row is decoded
cell by cell before the declared fields are restored. Between a value and its cell stand the JSON
text of structures and the text of dates and points in time; restoring undoes the second, given that
the text of a cell is not mistaken for JSON and the JSON text of a cell is one that can be read.
-/
import DocTable.Proofs.Codec.Cell
import DocTable.Proofs.Codec.Defaults
import DocTable.Proofs.Codec.Restore

namespace DocTable
namespace Codec

open Entries (ProperKeys)

/-! ## One cell -/

/-- A value whose cell is decoded to what was stored: a text does not look like JSON, and a
structure can be read. -/
structure FitsCell (v : Value) : Prop where
  plain : ∀ s, v = .text s → looksStructured s = false
  readable : v.isStructure → v.Readable cellNesting

lemma decodeValue_text {s : String} (h : looksStructured s = false) :
    decodeValue (.text s) = .ok (.text s) := by
  rw [decodeValue, h, if_neg Bool.false_ne_true]

/-- The text of a clock reading does not look like JSON, since it starts with a digit. -/
lemma looksStructured_storageText (t : Timestamp) : looksStructured t.storageText = false := by
  obtain ⟨c, digits, hdigits, hc⟩ := Text.exists_cons_decimal t.date.year
  have hhead : t.storageText.toList.head? = some c := by
    simp [Timestamp.storageText, Nat.toList_repr, hdigits]
  have hne : ∀ d : Char, d.isDigit = false → c ≠ d := fun d hd => Text.ne_of_isDigit hc hd
  simp [looksStructured, isBetween, hhead, hne '\x7b' (by decide), hne '[' (by decide)]

/-- A value at a position has a cell that is decoded and restored to the value itself, but for its
dates and points in time. -/
def RestoredFrom (position : Position) (v cell : Value) : Prop :=
  ∃ w, decodeValue cell = .ok w ∧ restoreAt position w = v.settled

/-- A structure that can be read is restored from its cell if it is restored from its JSON form. -/
lemma restoredFrom_of_isStructure {position : Position} {v : Value} (hv : v.Portable)
    (hrestore : restoreAt position v.jsonForm = v.settled) (hstruct : v.isStructure)
    (hread : v.Readable cellNesting) :
    ∃ cell, encodeValue v = .ok cell ∧ RestoredFrom position v cell := by
  obtain ⟨s, -, hencode, hdecode⟩ := decodeValue_encodeValue_eq hv hstruct
  have hback := (Json.readsForm_of_portable hv cellNesting v.jsonForm).2 ⟨hread, rfl⟩
  rw [hback] at hdecode
  exact ⟨.text s, hencode, v.jsonForm, hdecode, hrestore⟩

/-- Every value that fits a cell is encoded, and restored from its cell. -/
lemma exists_restoredFrom {position : Position} {v : Value} (h : Restorable position v)
    (hp : position.Proper) (hcell : FitsCell v) :
    ∃ cell, encodeValue v = .ok cell ∧ RestoredFrom position v cell := by
  have hrestore := restoreAt_jsonForm h hp
  -- a leaf is stored as it is or as a text that is not taken for JSON, a structure as JSON text
  cases h with
  | null => exact ⟨.null, rfl, .null, rfl, restoreAt_null position⟩
  | @date d day hkind hvalid hyear =>
    rw [jsonForm_date] at hrestore
    exact ⟨_, rfl, _, decodeValue_text (looksStructured_storageText _), hrestore⟩
  | @timestamp d t reading hkind hvalid hutc hyear =>
    rw [jsonForm_timestamp hutc] at hrestore
    have hencode : encodeValue (.timestamp t) = .ok (.text reading.storageText) := by
      rw [encodeValue, formatTimestamp, hutc]
      rfl
    exact ⟨_, hencode, _, decodeValue_text (looksStructured_storageText _), hrestore⟩
  | bool ht b => exact ⟨.bool b, rfl, .bool b, rfl, restoreAt_bool position b⟩
  | int ht hb n => exact ⟨.int n, rfl, .int n, rfl, restoreAt_int hb n⟩
  | text ht hb s =>
    exact ⟨.text s, rfl, .text s, decodeValue_text (hcell.plain s rfl), restoreAt_text ht s⟩
  | list ht hb hitems =>
    exact restoredFrom_of_isStructure (Restorable.list ht hb hitems).portable hrestore rfl
      (hcell.readable rfl)
  | map ht hb hnamed hentries =>
    exact restoredFrom_of_isStructure (Restorable.map ht hb hnamed hentries).portable hrestore rfl
      (hcell.readable rfl)

/-! ## Rows -/

/-- A row of which each cell is restored to the value of its name in a document. -/
def RowOf (fields : Fields) (document row : Entries) : Prop :=
  List.Forall₂ (fun e cell => e.1 = cell.1 ∧ RestoredFrom (fields.get? e.1) e.2 cell.2) document row

lemma keys_rowOf {fields : Fields} {document row : Entries} (h : RowOf fields document row) :
    row.keys = document.keys := by
  induction h with
  | nil => rfl
  | cons hcell _ ih => exact congrArg₂ List.cons hcell.1.symm ih

lemma exists_rowOf_of_cells {fields : Fields} {document : Entries}
    (h : ∀ e ∈ document,
      ∃ cell, encodeValue e.2 = .ok cell ∧ RestoredFrom (fields.get? e.1) e.2 cell) :
    ∃ row, encodeEntries document = .ok row ∧ RowOf fields document row := by
  induction document with
  | nil => exact ⟨[], rfl, .nil⟩
  | cons e es ih =>
    obtain ⟨cell, hencode, hcell⟩ := h e List.mem_cons_self
    obtain ⟨row, hrow, hrowOf⟩ := ih fun u hu => h u (List.mem_cons_of_mem _ hu)
    refine ⟨(e.1, cell) :: row, ?_, .cons ⟨rfl, hcell⟩ hrowOf⟩
    rw [encodeEntries, hencode, ok_bind, hrow, ok_bind]
    rfl

/-- The cells of a row are decoded to entries that are restored to those of the document. -/
lemma decodeCells_rowOf {fields : Fields} {document row : Entries} (h : RowOf fields document row) :
    ∃ decoded : Entries, decodeCells row = .ok decoded ∧ decoded.keys = document.keys ∧
      (decoded.map fun e => (e.1, restoreAt (fields.get? e.1) e.2)) =
        document.map fun e => (e.1, e.2.settled) := by
  induction h with
  | nil => exact ⟨[], rfl, rfl, rfl⟩
  | @cons e cell _ _ hcell _ ih =>
    obtain ⟨name, value⟩ := cell
    obtain ⟨hname, w, hdecode, hrestore⟩ := hcell
    obtain ⟨decoded, hdecoded, hkeys, hmap⟩ := ih
    refine ⟨(e.1, w) :: decoded, ?_, congrArg (e.1 :: ·) hkeys, ?_⟩
    · rw [decodeCells, hdecode, ok_bind, hdecoded, ok_bind, hname]
      rfl
    · rw [List.map_cons, List.map_cons, hmap, hrestore]

/-- A row of a document is decoded to the document. -/
lemma decodeRow_rowOf {fields : Fields} (hfields : fields.Proper) {document row : Entries}
    (hkeys : ProperKeys document.keys) (h : RowOf fields document row) :
    decodeRow fields row = .ok (document.map fun e => (e.1, e.2.settled)) := by
  obtain ⟨decoded, hdecoded, hsame, hmap⟩ := decodeCells_rowOf h
  rw [decodeRow, hdecoded, ok_bind, restoreFields_eq hfields.names (hsame ▸ hkeys), hmap]
  rfl

/-! ## Whole documents -/

/-- A definition with sub-fields and a default. -/
def sampleDefinition : Value :=
  .map [(.text "seen", .kind .temporal), (.text "active", .kind .boolean),
    (.text "profile", .map [(.text "at", .type .timestamp), (.text "ok", .kind .boolean)]),
    (.text "level", .map [(.text "type", .kind .integer), (.text "default", .int 1)])]

/-- The fields of the definition. -/
def sampleFields : Fields :=
  [(.text "seen", ⟨.temporal, none, none⟩), (.text "active", ⟨.boolean, none, none⟩),
    (.text "profile", ⟨.structured, none, some [(.text "at", ⟨.temporal, none, none⟩),
      (.text "ok", ⟨.boolean, none, none⟩)]⟩),
    (.text "level", ⟨.integer, some (.int 1), none⟩)]

lemma sampleDefinition_proper : sampleDefinition.Proper := by
  have hleaf : ∀ v : Value, v.isMap = false → v.Proper := fun v => .leaf
  refine .map ⟨by decide, by decide⟩ ?_
  simp only [List.forall_mem_cons]
  refine ⟨hleaf _ rfl, hleaf _ rfl, .map ⟨by decide, by decide⟩ ?_, .map ⟨by decide, by decide⟩ ?_,
    by simp⟩
  all_goals
    simp only [List.forall_mem_cons]
    exact ⟨hleaf _ rfl, hleaf _ rfl, by simp⟩

lemma ofDefinition_sampleDefinition :
    Fields.ofDefinition sampleDefinition = .ok sampleFields := rfl

end Codec
end DocTable
