/-
# What restoring leaves alone

A document is read in two steps. The first knows nothing of the declared fields and turns texts that
look like JSON into lists and mappings; the second restores what the fields declare. The second step
works position by position: what it makes of the value at a path only depends on that value and on
the descriptor that is declared for the path. So it turns texts into points in time where points in
time are declared, and integers into truth values where truth values are; everywhere else mappings
keep their keys and all other values stay as they are, however little the descriptors fit the data.
-/
import DocTable.Proofs.Codec.Rewriting

namespace DocTable
namespace Codec

/-! ## Positions at paths -/

namespace Position

/-- The position of a document with declared fields. -/
def root (fields : Fields) : Position := some ⟨.structured, none, some fields⟩

/-- The position at a path from another. -/
def along (position : Position) (path : List Value) : Position := path.foldl sub position

lemma along_cons (position : Position) (key : Value) (path : List Value) :
    position.along (key :: path) = (position.sub key).along path := rfl

lemma Proper.along {position : Position} (h : position.Proper) (path : List Value) :
    (position.along path).Proper := by
  induction path generalizing position with
  | nil => exact h
  | cons key path ih => exact ih (h.sub key)

/-- Sub-fields are declared only below structures. -/
def Normal (position : Position) : Prop := ∀ d ∈ position, d.Normal

lemma Normal.sub {position : Position} (h : position.Normal) (name : Value) :
    (position.sub name).Normal := by
  cases position with
  | none => intro d hd; cases hd
  | some d =>
    cases h d rfl with
    | plain => intro d hd; cases hd
    | nested descriptors =>
      intro d hd
      obtain ⟨f, hf, -, rfl⟩ := Fields.exists_mem_of_get? hd
      exact descriptors f hf

lemma Normal.along {position : Position} (h : position.Normal) (path : List Value) :
    (position.along path).Normal := by
  induction path generalizing position with
  | nil => exact h
  | cons key path ih => exact ih (h.sub key)

/-- Names that are the same lead to the same position. -/
lemma sub_of_same {position : Position} (hp : position.Proper) {a b : Value}
    (ha : a.canBeKey = true) (hb : b.canBeKey = true) (hab : a.same b = true) :
    position.sub a = position.sub b := by
  cases position with
  | none => rfl
  | some d =>
    cases hp d rfl with
    | plain => rfl
    | nested names descriptors => exact Fields.get?_of_same names ha hb hab

end Position

/-! ## Restoring along a path -/

lemma isMap_restoreAt (position : Position) (v : Value) :
    (restoreAt position v).isMap = v.isMap := by
  cases v with
  | text s =>
    rcases restoreAt_text_cases position s with heq | ⟨t, heq⟩
    · rw [heq]
    · rw [heq]
      rfl
  | int n =>
    rcases restoreAt_int_cases position n with heq | ⟨b, heq⟩
    · rw [heq]
    · rw [heq]
      rfl
  | _ => rcases position with - | ⟨-, -, - | _⟩ <;> rfl

/-- What is restored at a path is the value at that path, restored at the position of the path. -/
lemma at?_restoreAt {position : Position} (hp : position.Proper) {v : Value} (hv : v.Proper)
    {path : List Value} (hpath : ∀ key ∈ path, key.canBeKey = true) :
    (restoreAt position v).at? path = (v.at? path).map (restoreAt (position.along path)) := by
  induction path generalizing position v with
  | nil => rfl
  | cons key path ih =>
    obtain ⟨hkey, hrest⟩ := List.forall_mem_cons.1 hpath
    cases hv with
    | leaf h =>
      rw [Value.at?_cons_of_leaf h,
        Value.at?_cons_of_leaf ((isMap_restoreAt position v).trans h)]
      rfl
    | @map entries keys values =>
      -- an entry is restored at the position of its own name, which is the same as the key
      have hsame : ∀ e ∈ entries, e.1.same key = true →
          restoreAt (position.sub e.1) = restoreAt (position.sub key) := fun e he hkeys => by
        rw [Position.sub_of_same hp (keys.canBeKey _ (List.mem_map_of_mem he)) hkey hkeys]
      rw [restoreAt_map hp keys, Value.at?, Value.at?,
        Entries.get?_map (fun name => restoreAt (position.sub name)) hsame,
        Position.along_cons]
      cases hget : Entries.get? key entries with
      | none => rfl
      | some inner =>
        obtain ⟨e, he, -, rfl⟩ := Entries.exists_mem_of_get? hget
        exact ih (hp.sub key) (values e he) hrest

/-- What may become of a value that is restored at a position: a mapping has the same keys in the
same order, and any other value is the same, but for a text at the position of a point in time and
an integer at that of a truth value. -/
inductive Becomes : Position → Value → Value → Prop
  | same (position : Position) (v : Value) : Becomes position v v
  | map {position : Position} {entries restored : Entries} (ht : position.IsNot .temporal)
      (hb : position.IsNot .boolean) (hkeys : restored.keys = entries.keys) :
      Becomes position (.map entries) (.map restored)
  | temporal {d : Descriptor} (hkind : d.kind = .temporal) {s : String} {t : Timestamp}
      (hread : readTemporal? s = some t) : Becomes (some d) (.text s) (.timestamp t)
  | boolean {d : Descriptor} (hkind : d.kind = .boolean) (n : Int) :
      Becomes (some d) (.int n) (.bool (n != 0))

lemma becomes_restore_text (d : Descriptor) (s : String) :
    Becomes (some d) (.text s) (restore d (.text s)) := by
  rw [restore_text]
  split_ifs with hkind
  · cases hread : readTemporal? s with
    | none => exact .same _ _
    | some t => exact .temporal hkind hread
  · exact .same _ _

lemma becomes_restore_int (d : Descriptor) (n : Int) :
    Becomes (some d) (.int n) (restore d (.int n)) := by
  rw [restore_int]
  split_ifs with hkind
  · exact .boolean hkind n
  · exact .same _ _

lemma becomes_restoreAt {position : Position} (hp : position.Proper) (hn : position.Normal)
    {v : Value} (hv : v.Proper) : Becomes position v (restoreAt position v) := by
  cases position with
  | none => exact .same _ _
  | some d =>
    cases hv with
    | @map entries keys values =>
      cases hn d rfl with
      | plain => exact .same _ _
      | nested descriptors =>
        rw [restoreAt_map hp keys]
        exact .map (by rintro _ ⟨⟩ ⟨⟩) (by rintro _ ⟨⟩ ⟨⟩) (Entries.keys_map entries _)
    | leaf h =>
      cases v with
      | text s => exact becomes_restore_text d s
      | int n => exact becomes_restore_int d n
      | map => cases h
      | _ =>
        rcases d with ⟨-, -, -⟩
        exact .same _ _

/-! ## Restoring again -/

lemma restore_restore_text (d : Descriptor) (s : String) :
    restore d (restore d (.text s)) = restore d (.text s) := by
  have hbecomes := becomes_restore_text d s
  generalize hw : restore d (.text s) = w at hbecomes ⊢
  cases hbecomes with
  | same => exact hw
  | temporal =>
    rcases d with ⟨-, -, -⟩
    rfl

lemma restore_restore_int (d : Descriptor) (n : Int) :
    restore d (restore d (.int n)) = restore d (.int n) := by
  have hbecomes := becomes_restore_int d n
  generalize hw : restore d (.int n) = w at hbecomes ⊢
  cases hbecomes with
  | same => exact hw
  | boolean =>
    rcases d with ⟨-, -, -⟩
    rfl

/-- What has been restored at a position is left alone there. -/
lemma restoreAt_restoreAt {position : Position} (hp : position.Proper) {v : Value}
    (hv : v.Proper) : restoreAt position (restoreAt position v) = restoreAt position v := by
  induction hv generalizing position with
  | @map entries keys values ih =>
    rw [restoreAt_map hp keys, restoreAt_map hp (Entries.keys_map entries _ ▸ keys), List.map_map]
    refine congrArg Value.map (List.map_congr_left fun e he => ?_)
    exact congrArg (Prod.mk e.1) (ih e he (hp.sub e.1))
  | @leaf v h =>
    cases position with
    | none => rfl
    | some d =>
      cases v with
      | text s => exact restore_restore_text d s
      | int n => exact restore_restore_int d n
      | map => cases h
      | _ =>
        rcases d with ⟨-, -, -⟩
        rfl

/-! ## Rows -/

lemma proper_of_plain {v : Value} (h : Json.Plain v) : v.Proper := by
  induction h with
  | map hnamed _ ih => exact .map hnamed.properKeys ih
  | _ => exact .leaf rfl

lemma proper_decodeValue {cell v : Value} (hcell : cell.Proper) (h : decodeValue cell = .ok v) :
    v.Proper := by
  rcases decodeValue_cases h with rfl | ⟨-, hfound⟩
  · exact hcell
  · exact proper_of_plain hfound.plain

lemma proper_decodeCells {row decoded : Entries} (hrow : (Value.map row).Proper)
    (h : decodeCells row = .ok decoded) : (Value.map decoded).Proper := by
  obtain ⟨hkeys, hcells⟩ := Value.proper_map_iff.1 hrow
  obtain ⟨hsame, hspec⟩ := decodeCells_spec h
  refine .map (hsame ▸ hkeys) fun e he => ?_
  obtain ⟨cell, hcell, hdecode⟩ := hspec e he
  exact proper_decodeValue (hcells cell hcell) hdecode

/-- A row is read with the fields of a definition and without them to the same fault, or to two
documents that at every path have what may become of each other there. What has been restored by a
descriptor at any depth is left alone by it. -/
theorem decodeRow_becomes {definition : Value} (hdefinition : definition.Proper) {fields : Fields}
    (hfields : Fields.ofDefinition definition = .ok fields) {row : Entries}
    (hrow : (Value.map row).Proper) :
    EndAlike (fun restored read => ∀ path : List Value, (∀ key ∈ path, key.canBeKey = true) →
        Option.Rel (Becomes ((Position.root fields).along path))
          ((Value.map read).at? path) ((Value.map restored).at? path))
      (decodeRow fields row) (decodeRow [] row) ∧
    ∀ path d, (Position.root fields).along path = some d →
      ∀ v : Value, v.Proper → restore d (restore d v) = restore d v := by
  have hproper : (Position.root fields).Proper := by
    rintro _ ⟨⟩
    exact .of_fields (Fields.proper_ofDefinition hdefinition hfields)
  have hnormal : (Position.root fields).Normal := by
    rintro _ ⟨⟩
    exact .nested (Fields.normal_ofDefinition hfields)
  constructor
  · rw [decodeRow, decodeRow]
    cases hcells : decodeCells row with
    | error fault => exact .error fault
    | ok cells =>
      have hread := proper_decodeCells hrow hcells
      refine .ok fun path hpath => ?_
      have hat := at?_restoreAt hproper hread hpath
      change (Value.map (restoreFields fields cells)).at? path = _ at hat
      change Option.Rel _ ((Value.map cells).at? path) _
      rw [hat]
      cases hvalue : (Value.map cells).at? path with
      | none => exact .none
      | some v =>
        exact .some (becomes_restoreAt (hproper.along path) (hnormal.along path)
          (hread.at? hvalue))
  · intro path d hd v hv
    have hagain := restoreAt_restoreAt (hproper.along path) hv
    rwa [hd] at hagain

/-- A row with a point in time below the top, a mapping where a point in time is declared and a list
where a truth value is. -/
def mismatchedRow : Entries :=
  [(.text "profile", .map [(.text "at", .text "2024-3-1 01:30:00"), (.text "ok", .list [])]),
    (.text "seen", .map [(.text "ok", .int 1)]), (.text "active", .text "[true]")]

theorem decodeRow_becomes_mismatchedRow :
    sampleDefinition.Proper ∧ Fields.ofDefinition sampleDefinition = .ok sampleFields ∧
    (Value.map mismatchedRow).Proper ∧
    ∃ restored read, decodeRow sampleFields mismatchedRow = .ok restored ∧
      decodeRow [] mismatchedRow = .ok read ∧
      Option.Rel (Becomes (some ⟨.temporal, none, none⟩))
        ((Value.map read).at? [.text "profile", .text "at"])
        ((Value.map restored).at? [.text "profile", .text "at"]) := by
  have hrow : (Value.map mismatchedRow).Proper := by
    refine .map ⟨by decide, by decide⟩ ?_
    simp only [mismatchedRow, List.forall_mem_cons]
    refine ⟨.map ⟨by decide, by decide⟩ ?_, .map ⟨by decide, by decide⟩ ?_, .leaf rfl, by simp⟩
    · simp only [List.forall_mem_cons]
      exact ⟨.leaf rfl, .leaf rfl, by simp⟩
    · exact List.forall_mem_singleton.2 (.leaf rfl)
  obtain ⟨restored, hrestored⟩ : Succeeds (decodeRow sampleFields mismatchedRow) := ⟨_, rfl⟩
  obtain ⟨read, hread⟩ : Succeeds (decodeRow [] mismatchedRow) := ⟨_, rfl⟩
  obtain ⟨halike, -⟩ :=
    decodeRow_becomes sampleDefinition_proper ofDefinition_sampleDefinition hrow
  rw [hrestored, hread] at halike
  refine ⟨sampleDefinition_proper, ofDefinition_sampleDefinition, hrow, restored, read, hrestored,
    hread, ?_⟩
  cases halike with
  | ok h => exact h [.text "profile", .text "at"] (by decide)

end Codec
end DocTable
