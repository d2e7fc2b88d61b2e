/-
# Rows that are read and written again

What a cell is decoded and restored to is encoded to a cell that is decoded and restored to the same
value again. A value that has been read from JSON text is printed in a form that can be read, a
point in time that was restored from a text is stored under a text from which it is restored, and a
text that was left as it is is left so again. A document without a float and without a year of fewer than
four digits thus stays the same however often it is read and written.

Reading fails where the text of a cell is nested too deeply, and nowhere else.
-/
import DocTable.Proofs.Codec.Document
import DocTable.Proofs.Codec.Refilling
import DocTable.Proofs.Json.Reading
import DocTable.Proofs.Value.Leaves

namespace DocTable
namespace Codec

open Entries (ProperKeys)
open Value (Readable)

/-! ## Values that have been restored -/

/-- A value that has been restored at a position and has a stored form to restore it from. -/
inductive Lasting : Position → Value → Prop
  | null (position : Position) : Lasting position .null
  | bool (position : Position) (b : Bool) : Lasting position (.bool b)
  | int {position : Position} (hb : position.IsNot .boolean) (n : Int) : Lasting position (.int n)
  | text {position : Position} {s : String}
      (h : ∀ d ∈ position, d.kind = .temporal → readTemporal? s = none) :
      Lasting position (.text s)
  | timestamp {d : Descriptor} {t : Timestamp} (hkind : d.kind = .temporal) (hvalid : t.Valid)
      (hoffset : t.offset = none) (hmicro : t.micro = 0) (hyear : 1000 ≤ t.date.year) :
      Lasting (some d) (.timestamp t)
  | list {position : Position} {items : List Value} (h : ∀ v ∈ items, Lasting none v) :
      Lasting position (.list items)
  | map {position : Position} {entries : Entries} (hnamed : entries.Named)
      (h : ∀ e ∈ entries, Lasting (position.sub e.1) e.2) : Lasting position (.map entries)

lemma utc?_of_offset {t : Timestamp} (h : t.offset = none) : t.utc? = some t := by
  rw [Timestamp.utc?, h]

lemma toSecond_of_micro {t : Timestamp} (h : t.micro = 0) : t.toSecond = t := by
  rw [Timestamp.toSecond, ← h]

lemma Lasting.portable {position : Position} {v : Value} (h : Lasting position v) : v.Portable := by
  induction h with
  | null => exact .null
  | bool _ b => exact .bool b
  | int _ n => exact .int n
  | text => exact .text _
  | timestamp _ _ hoffset => exact .timestamp (by rw [utc?_of_offset hoffset]; rfl)
  | list _ ih => exact .list ih
  | map hnamed _ ih => exact .map hnamed ih

lemma Lasting.settled_eq {position : Position} {v : Value} (h : Lasting position v) :
    v.settled = v := by
  induction h with
  | timestamp _ _ hoffset hmicro =>
    rw [Value.settled, utc?_of_offset hoffset, Option.getD_some, toSecond_of_micro hmicro]
  | @list _ items _ ih =>
    rw [Value.settled, Value.settledItems_eq, List.map_congr_left ih, List.map_id']
  | map _ _ ih => rw [Value.settled, Value.settledEntries_eq, Entries.map_eq_self ih]
  | _ => rfl

lemma restoreAt_text_of_unread {position : Position} {s : String}
    (h : ∀ d ∈ position, d.kind = .temporal → readTemporal? s = none) :
    restoreAt position (.text s) = .text s := by
  cases position with
  | none => rfl
  | some d =>
    rw [restoreAt, restore_text]
    split_ifs with hkind
    · rw [h d rfl hkind]
      rfl
    · rfl

/-- What has been restored is restored again from its JSON form. -/
lemma Lasting.restoreAt_jsonForm {position : Position} {v : Value} (h : Lasting position v)
    (hp : position.Proper) : restoreAt position v.jsonForm = v := by
  induction h with
  | null position => exact restoreAt_null position
  | bool position b => exact restoreAt_bool position b
  | int hb n => exact restoreAt_int hb n
  | text h => exact restoreAt_text_of_unread h
  | timestamp hkind hvalid hoffset hmicro hyear =>
    rw [jsonForm_timestamp (utc?_of_offset hoffset),
      restoreAt_storageText hkind hvalid hyear hoffset, toSecond_of_micro hmicro]
  | @list _ items _ ih =>
    have hitems := List.map_congr_left fun v hv => ih v hv (by intro d hd; cases hd)
    rw [List.map_id'] at hitems
    rw [Value.jsonForm, Value.jsonForms_eq, restoreAt_list]
    exact congrArg Value.list hitems
  | @map position entries hnamed _ ih =>
    rw [Value.jsonForm, Value.jsonFormEntries_eq,
      restoreAt_map hp (Entries.keys_map entries _ ▸ hnamed.properKeys), List.map_map]
    exact congrArg Value.map (Entries.map_eq_self fun e he => ih e he (hp.sub e.1))

/-! ## What restoring gives -/

lemma ofNumbers?_spec {numbers : List Nat} {t : Timestamp} (h : ofNumbers? numbers = some t) :
    t.Valid ∧ t.offset = none ∧ t.micro = 0 := by
  rw [ofNumbers?.eq_def] at h
  split at h
  · dsimp only at h
    split_ifs at h with hvalid
    cases h
    exact ⟨hvalid, rfl, rfl⟩
  · dsimp only at h
    split_ifs at h with hvalid
    cases h
    exact ⟨hvalid, rfl, rfl⟩
  · cases h

/-- A text is read as a valid clock reading without an offset, to the second. -/
lemma readTemporal?_spec {s : String} {t : Timestamp} (h : readTemporal? s = some t) :
    t.Valid ∧ t.offset = none ∧ t.micro = 0 := by
  obtain ⟨form, -, hform⟩ := List.exists_of_findSome?_eq_some h
  rw [readForm?] at hform
  split at hform
  · exact ofNumbers?_spec hform
  · cases hform

/-- Whether a leaf can be kept: a float cannot, and a point in time only from the year 1000 on. -/
def isKept : Value → Bool
  | .float _ => false
  | .timestamp t => decide (1000 ≤ t.date.year)
  | _ => true

lemma restoreAt_float (position : Position) (x : Binary64) :
    restoreAt position (.float x) = .float x := by
  rcases position with - | ⟨-, -, -⟩ <;> rfl

/-- An integer stays one or becomes a truth value. -/
lemma restoreAt_int_cases (position : Position) (n : Int) :
    restoreAt position (.int n) = .int n ∨ ∃ b, restoreAt position (.int n) = .bool b := by
  cases position with
  | none => exact .inl rfl
  | some d =>
    rw [restoreAt, restore_int]
    split_ifs
    · exact .inr ⟨_, rfl⟩
    · exact .inl rfl

/-- A text stays one or becomes a point in time. -/
lemma restoreAt_text_cases (position : Position) (s : String) :
    restoreAt position (.text s) = .text s ∨ ∃ t, restoreAt position (.text s) = .timestamp t := by
  cases position with
  | none => exact .inl rfl
  | some d =>
    rw [restoreAt, restore_text]
    split_ifs
    · cases readTemporal? s with
      | none => exact .inl rfl
      | some t => exact .inr ⟨t, rfl⟩
    · exact .inl rfl

lemma lasting_restoreAt_text {position : Position} {s : String}
    (h : (restoreAt position (.text s)).allLeaves isKept = true) :
    Lasting position (restoreAt position (.text s)) := by
  cases position with
  | none => exact .text fun d hd => by cases hd
  | some d =>
    rw [restoreAt, restore_text] at h ⊢
    by_cases hkind : d.kind = .temporal
    · rw [if_pos hkind] at h ⊢
      cases hread : readTemporal? s with
      | none => exact .text fun _ _ _ => hread
      | some t =>
        rw [hread] at h
        obtain ⟨hvalid, hoffset, hmicro⟩ := readTemporal?_spec hread
        exact .timestamp hkind hvalid hoffset hmicro (of_decide_eq_true h)
    · rw [if_neg hkind]
      exact .text fun _ hd hkind' => absurd (Option.mem_some.1 hd ▸ hkind') hkind

lemma lasting_restoreAt_int (position : Position) (n : Int) :
    Lasting position (restoreAt position (.int n)) := by
  cases position with
  | none => exact .int (fun d hd => by cases hd) n
  | some d =>
    rw [restoreAt, restore_int]
    split_ifs with hkind
    · exact .bool _ _
    · exact .int (fun _ hd => Option.mem_some.1 hd ▸ hkind) n

/-- Whatever JSON text can spell lasts once it has been restored, if its leaves can be kept. -/
lemma lasting_restoreAt {v : Value} (hv : Json.Plain v) {position : Position}
    (hp : position.Proper) (h : (restoreAt position v).allLeaves isKept = true) :
    Lasting position (restoreAt position v) := by
  induction hv generalizing position with
  | null => rw [restoreAt_null]; exact .null _
  | bool b => rw [restoreAt_bool]; exact .bool _ b
  | int n => exact lasting_restoreAt_int position n
  | float x =>
    rw [restoreAt_float] at h
    cases h
  | text s => exact lasting_restoreAt_text h
  | list _ ih =>
    rw [restoreAt_list, Value.allLeaves_list_iff] at h
    rw [restoreAt_list]
    exact .list fun v hv => ih v hv (by intro d hd; cases hd) (h v hv)
  | @map entries hnamed _ ih =>
    rw [restoreAt_map hp hnamed.properKeys, Value.allLeaves_map_iff, List.forall_mem_map] at h
    rw [restoreAt_map hp hnamed.properKeys]
    exact .map (hnamed.of_keys_eq (Entries.keys_map entries _))
      (List.forall_mem_map.2 fun e he => ih e he (hp.sub e.1) (h e he))

/-- Restoring leaves lists and mappings as deep as they are, and makes no integer. -/
lemma readable_restoreAt {v : Value} (hv : Json.Plain v) {position : Position}
    (hp : position.Proper) {room : Nat} (h : v.Readable room) :
    (restoreAt position v).Readable room := by
  induction hv generalizing position room with
  | null => rw [restoreAt_null]; exact h
  | bool b => rw [restoreAt_bool]; exact h
  | int n =>
    rcases restoreAt_int_cases position n with heq | ⟨b, heq⟩
    · rwa [heq]
    · rw [heq]
      exact Value.readable_leaf rfl rfl
  | float x => rw [restoreAt_float]; exact h
  | text s =>
    rcases restoreAt_text_cases position s with heq | ⟨t, heq⟩
    · rwa [heq]
    · rw [heq]
      exact Value.readable_leaf rfl rfl
  | list => rw [restoreAt_list]; exact h
  | @map entries hnamed _ ih =>
    rw [restoreAt_map hp hnamed.properKeys]
    cases room with
    | zero => exact absurd h (Value.not_readable_zero_map _)
    | succ room =>
      rw [Value.readable_map_iff] at h ⊢
      exact List.forall_mem_map.2 fun e he => ih e he (hp.sub e.1) (h e he)

/-! ## Cells -/

/-- Whether a value is what a row can hold in a cell: nothing, a truth value, an integer or a
text. -/
def isPlainCell : Value → Bool
  | .null => true
  | .bool _ => true
  | .int _ => true
  | .text _ => true
  | _ => false

/-- A text that looks like JSON in which lists or objects are nested too deeply. -/
def IsTooDeep (cell : Value) : Prop :=
  ∃ s, cell = .text s ∧ looksStructured s = true ∧ Json.read cellNesting s = .error .tooDeep

lemma plain_of_isPlainCell {cell : Value} (h : isPlainCell cell = true) : Json.Plain cell := by
  cases cell with
  | null => exact .null
  | bool b => exact .bool b
  | int n => exact .int n
  | text s => exact .text s
  | _ => cases h

lemma isStructure_of_isPlainCell {cell : Value} (h : isPlainCell cell = true) :
    cell.isStructure = false := by
  cases cell <;> first | rfl | cases h

lemma isStructure_of_looksStructured {s : String} (h : looksStructured s = true) {v : Value}
    (hread : Json.read cellNesting s = .ok v) : v.isStructure = true := by
  simp only [looksStructured, Bool.or_eq_true, isBetween, Bool.and_eq_true, beq_iff_eq] at h
  rcases h with ⟨hhead, -⟩ | ⟨hhead, -⟩
  · exact Json.isStructure_of_read hread (.inr rfl) hhead
  · exact Json.isStructure_of_read hread (.inl rfl) hhead

/-- A cell is decoded to itself, or to a list or a mapping that is found in its text. -/
lemma decodeValue_cases {cell v : Value} (h : decodeValue cell = .ok v) :
    v = cell ∨ v.isStructure = true ∧ Json.Found cellNesting v := by
  cases cell with
  | text s =>
    rw [decodeValue] at h
    split_ifs at h with hlooks
    · rw [decodeStructured] at h
      split at h
      · rename_i hread
        cases h
        exact .inr ⟨isStructure_of_looksStructured hlooks hread, Json.found_of_read hread⟩
      · cases h
      · cases h
        exact .inl rfl
    · cases h
      exact .inl rfl
  | _ => cases h; exact .inl rfl

lemma succeeds_decodeValue_iff {cell : Value} :
    Succeeds (decodeValue cell) ↔ ¬IsTooDeep cell := by
  cases cell with
  | text s =>
    simp only [IsTooDeep, Value.text.injEq, exists_eq_left', decodeValue]
    split_ifs with hlooks
    · rw [decodeStructured]
      split <;> simp_all
    · simp [hlooks]
  | _ => simp [IsTooDeep, decodeValue]

lemma isStructure_restoreAt {v : Value} (hv : Json.Plain v) (position : Position) :
    (restoreAt position v).isStructure = v.isStructure := by
  cases hv with
  | null => rw [restoreAt_null]
  | bool b => rw [restoreAt_bool]
  | float x => rw [restoreAt_float]
  | list => rw [restoreAt_list]
  | int n =>
    rcases restoreAt_int_cases position n with heq | ⟨b, heq⟩
    · rw [heq]
    · rw [heq]
      rfl
  | text s =>
    rcases restoreAt_text_cases position s with heq | ⟨t, heq⟩
    · rw [heq]
    · rw [heq]
      rfl
  | map => rcases position with - | ⟨-, -, - | _⟩ <;> rfl

/-- A text is only restored from itself. -/
lemma eq_text_of_restoreAt {v : Value} {position : Position} {s : String}
    (h : restoreAt position v = .text s) : v = .text s := by
  cases v with
  | text t =>
    rcases restoreAt_text_cases position t with heq | ⟨_, heq⟩
    · exact heq.symm.trans h
    · cases heq.symm.trans h
  | int n =>
    rcases restoreAt_int_cases position n with heq | ⟨_, heq⟩ <;> cases heq.symm.trans h
  | _ => rcases position with - | ⟨_, _, - | _⟩ <;> cases h

/-- A value that lasts is stored in a cell from which it is restored, if the cell can be decoded. -/
lemma Lasting.exists_restoredFrom {position : Position} {v : Value} (h : Lasting position v)
    (hp : position.Proper) (htext : ∀ s, v = .text s → decodeValue v = .ok v)
    (hread : v.isStructure = true → v.Readable cellNesting) :
    ∃ cell, encodeValue v = .ok cell ∧ RestoredFrom position v cell := by
  have hportable := h.portable
  have hsettled := h.settled_eq
  have hrestore := h.restoreAt_jsonForm hp
  -- the JSON form of a leaf is the leaf itself, or the text of a point in time
  cases h with
  | null => exact ⟨.null, rfl, .null, rfl, hrestore⟩
  | bool _ b => exact ⟨.bool b, rfl, .bool b, rfl, hrestore⟩
  | int _ n => exact ⟨.int n, rfl, .int n, rfl, hrestore⟩
  | @text _ s => exact ⟨.text s, rfl, .text s, htext s rfl, hrestore⟩
  | @timestamp d t _ _ hoffset =>
    have hutc := utc?_of_offset hoffset
    have hencode : encodeValue (.timestamp t) = .ok (.text t.storageText) := by
      rw [encodeValue, formatTimestamp, hutc]
      rfl
    rw [jsonForm_timestamp hutc] at hrestore
    exact ⟨_, hencode, _, decodeValue_text (looksStructured_storageText t),
      hrestore.trans hsettled.symm⟩
  | list =>
    exact restoredFrom_of_isStructure hportable (hrestore.trans hsettled.symm) rfl (hread rfl)
  | map =>
    exact restoredFrom_of_isStructure hportable (hrestore.trans hsettled.symm) rfl (hread rfl)

lemma plain_of_decodeValue {cell v : Value} (hcell : isPlainCell cell = true)
    (hdecode : decodeValue cell = .ok v) : Json.Plain v := by
  rcases decodeValue_cases hdecode with rfl | ⟨-, hfound⟩
  · exact plain_of_isPlainCell hcell
  · exact hfound.plain

/-- What a cell has been decoded and restored to is stored in a cell from which it is restored. -/
lemma exists_restoredFrom_restoreAt {position : Position} (hp : position.Proper) {cell v : Value}
    (hcell : isPlainCell cell = true) (hdecode : decodeValue cell = .ok v)
    (hlasting : Lasting position (restoreAt position v)) :
    ∃ next, encodeValue (restoreAt position v) = .ok next ∧
      RestoredFrom position (restoreAt position v) next := by
  have hplain := plain_of_decodeValue hcell hdecode
  refine hlasting.exists_restoredFrom hp (fun s hs => ?_) fun hstruct => ?_
  · -- only a text that was decoded to itself is left a text, and it is decoded to itself again
    obtain rfl := eq_text_of_restoreAt hs
    rcases decodeValue_cases hdecode with rfl | ⟨h, -⟩
    · rwa [hs]
    · cases h
  · rw [isStructure_restoreAt hplain] at hstruct
    rcases decodeValue_cases hdecode with rfl | ⟨-, hfound⟩
    · rw [isStructure_of_isPlainCell hcell] at hstruct
      cases hstruct
    · exact readable_restoreAt hplain hp hfound.readable

/-! ## Rows -/

lemma succeeds_decodeCells_iff {row : Entries} :
    Succeeds (decodeCells row) ↔ ∀ cell ∈ row, ¬IsTooDeep cell.2 := by
  induction row with
  | nil => simp [decodeCells]
  | cons cell row ih =>
    rw [List.forall_mem_cons, ← succeeds_decodeValue_iff, ← ih]
    refine (succeeds_bind_iff fun _ _ => ?_)
    exact succeeds_bind_ok_iff

/-- Each value that a row is decoded to is that of one of its cells. -/
lemma decodeCells_spec {row decoded : Entries} (h : decodeCells row = .ok decoded) :
    decoded.keys = row.keys ∧ ∀ e ∈ decoded, ∃ cell ∈ row, decodeValue cell.2 = .ok e.2 := by
  induction row generalizing decoded with
  | nil =>
    cases h
    exact ⟨rfl, by simp⟩
  | cons cell row ih =>
    obtain ⟨name, value⟩ := cell
    obtain ⟨v, hvalue, h⟩ := bind_eq_ok_iff.1 h
    obtain ⟨more, hmore, h⟩ := bind_eq_ok_iff.1 h
    cases h
    obtain ⟨hkeys, hcells⟩ := ih hmore
    refine ⟨congrArg (name :: ·) hkeys, List.forall_mem_cons.2 ⟨?_, fun e he => ?_⟩⟩
    · exact ⟨_, List.mem_cons_self, hvalue⟩
    · obtain ⟨cell, hcell, hdecode⟩ := hcells e he
      exact ⟨cell, List.mem_cons_of_mem _ hcell, hdecode⟩

lemma decodeRow_eq_ok_iff {fields : Fields} (hnames : ProperKeys fields.names)
    {row document : Entries} (hkeys : ProperKeys row.keys) :
    decodeRow fields row = .ok document ↔ ∃ decoded : Entries, decodeCells row = .ok decoded ∧
      (decoded.map fun e => (e.1, restoreAt (fields.get? e.1) e.2)) = document := by
  rw [decodeRow, bind_eq_ok_iff]
  refine exists_congr fun decoded => and_congr_right fun hdecoded => ?_
  rw [restoreFields_eq hnames ((decodeCells_spec hdecoded).1 ▸ hkeys), pure_eq_ok,
    Except.ok.injEq]

lemma succeeds_decodeRow_iff {fields : Fields} {row : Entries} :
    Succeeds (decodeRow fields row) ↔ ∀ cell ∈ row, ¬IsTooDeep cell.2 := by
  rw [← succeeds_decodeCells_iff]
  exact succeeds_bind_ok_iff

/-- A row can be decoded unless lists or objects are nested too deeply in the text of a cell. The
document that it is decoded to is encoded to a row that is decoded to the same document, if it holds
no float and no point in time before the year 1000. -/
theorem decodeRow_again {fields : Fields} (hfields : fields.Proper)
    (hdefaults : fields.DefaultsSatisfy fun _ => False) {row : Entries}
    (hkeys : ProperKeys row.keys) (hcells : ∀ cell ∈ row, isPlainCell cell.2 = true)
    (draws : Draws) :
    (Succeeds (decodeRow fields row) ↔ ∀ cell ∈ row, ¬IsTooDeep cell.2) ∧
    ∀ document, decodeRow fields row = .ok document →
      (∀ e ∈ document, e.2.allLeaves isKept = true) →
      ∃ pairs, encodeDocument fields (.map document) draws =
          ⟨.map document, draws.anew, .ok pairs⟩ ∧
        decodeRow fields (.ofAssignments pairs) = .ok document := by
  refine ⟨succeeds_decodeRow_iff, fun document hdocument hkept => ?_⟩
  obtain ⟨decoded, hdecoded, rfl⟩ := (decodeRow_eq_ok_iff hfields.names hkeys).1 hdocument
  obtain ⟨hsame, hspec⟩ := decodeCells_spec hdecoded
  rw [List.forall_mem_map] at hkept
  have hp := Position.proper_get? hfields
  have hlasting : ∀ e ∈ decoded, Lasting (fields.get? e.1) (restoreAt (fields.get? e.1) e.2) := by
    intro e he
    obtain ⟨cell, hcell, hdecode⟩ := hspec e he
    exact lasting_restoreAt (plain_of_decodeValue (hcells cell hcell) hdecode) (hp e.1) (hkept e he)
  -- every value of the document has come out of a cell, and goes into one
  have hstored : ∀ e ∈ decoded.map fun e => (e.1, restoreAt (fields.get? e.1) e.2),
      ∃ cell, encodeValue e.2 = .ok cell ∧ RestoredFrom (fields.get? e.1) e.2 cell := by
    refine List.forall_mem_map.2 fun e he => ?_
    obtain ⟨cell, hcell, hdecode⟩ := hspec e he
    exact exists_restoredFrom_restoreAt (hp e.1) (hcells cell hcell) hdecode (hlasting e he)
  obtain ⟨pairs, hpairs, hrowOf⟩ := exists_rowOf_of_cells hstored
  have hkeysDecoded : ProperKeys
      (Entries.keys (decoded.map fun e => (e.1, restoreAt (fields.get? e.1) e.2))) := by
    rw [Entries.keys_map, hsame]
    exact hkeys
  have hassign : Entries.ofAssignments pairs = pairs :=
    Entries.ofAssignments_of_distinct (keys_rowOf hrowOf ▸ hkeysDecoded).distinct_entries
  refine ⟨pairs, ?_, ?_⟩
  · rw [encodeDocument, fillFields_of_areFilled (areFilled_of_no_defaults hdefaults)]
    simp only [storedPairs, Value.entries, ok_bind, hpairs]
  · rw [hassign, decodeRow_rowOf hfields hkeysDecoded hrowOf]
    exact congrArg Except.ok (Entries.map_eq_self
      (List.forall_mem_map.2 fun e he => (hlasting e he).settled_eq))

/-- Fields without defaults. -/
def plainFields : Fields :=
  [(.text "seen", ⟨.temporal, none, none⟩), (.text "left", ⟨.temporal, none, none⟩),
    (.text "active", ⟨.boolean, none, none⟩)]

/-- A row with a text in a loose form for a point in time, one that is none, and one that only looks
like JSON. -/
def plainRow : Entries :=
  [(.text "seen", .text "2024-2-29T7:05:09"), (.text "left", .text "soon"),
    (.text "active", .int 1), (.text "tags", .text "[true]"),
    (.text "note", .text "[1,]")]

/-- The document of the row. -/
def plainDocument : Entries :=
  [(.text "seen", .timestamp ⟨⟨2024, 2, 29⟩, 7, 5, 9, 0, none⟩), (.text "left", .text "soon"),
    (.text "active", .bool true), (.text "tags", .list [.bool true]),
    (.text "note", .text "[1,]")]

lemma plainFields_proper : plainFields.Proper := by
  refine ⟨⟨by decide, by decide⟩, ?_⟩
  simp only [plainFields, List.forall_mem_cons]
  exact ⟨.plain _ _, .plain _ _, .plain _ _, by simp⟩

lemma plainFields_no_defaults : plainFields.DefaultsSatisfy fun _ => False := by
  have hplain : ∀ kind, Descriptor.DefaultsSatisfy (fun _ => False) ⟨kind, none, none⟩ := by
    intro kind
    refine .mk ?_ ?_ <;> rintro _ ⟨⟩
  simp only [Fields.DefaultsSatisfy, plainFields, List.forall_mem_cons]
  exact ⟨hplain _, hplain _, hplain _, by simp⟩

lemma decodeRow_plainRow : decodeRow plainFields plainRow = .ok plainDocument := rfl

theorem decodeRow_again_plainRow :
    ∃ pairs, encodeDocument plainFields (.map plainDocument) noDraws =
        ⟨.map plainDocument, noDraws, .ok pairs⟩ ∧
      decodeRow plainFields (.ofAssignments pairs) = .ok plainDocument :=
  (decodeRow_again plainFields_proper plainFields_no_defaults ⟨by decide, by decide⟩ (by decide)
    noDraws).2 plainDocument decodeRow_plainRow (by decide)

lemma readBack_tower (n : Nat) : Json.readBack n (tower n) = .error .tooDeep := by
  induction n with
  | zero => rfl
  | succ n ih => rw [tower, Json.readBack, Json.readBackItems, ih]; rfl

/-- A row cannot be read if the JSON text of a cell is nested one step too deep. -/
theorem decodeRow_tower :
    ∃ s, Json.print (tower cellNesting) = .ok s ∧
      decodeRow [] [(.text "a", .text s)] = .error .tooDeep := by
  obtain ⟨s, hprint, -, hdecode⟩ := decodeValue_encodeValue_eq (tower_portable cellNesting) rfl
  rw [readBack_tower, afterReading] at hdecode
  exact ⟨s, hprint, by rw [decodeRow, decodeCells, hdecode]; rfl⟩

end Codec
end DocTable
