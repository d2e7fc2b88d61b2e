/-
# Restoring what JSON text has lost

The position of a value in a document is the descriptor that is declared for it, if there is one. A
value that has been stored and read back has texts for its dates and points in time; restoring it at
its position gives the points in time again, without an offset and to the second, as long as they
stand where the position says that points in time stand.
-/
import DocTable.Codec.Decode
import DocTable.Proofs.Codec.Temporal
import DocTable.Proofs.Json.Form
import DocTable.Proofs.Schema.Fields

namespace DocTable

namespace Value

mutual

/-- A value with plain clock readings, to the second, for its dates and points in time. -/
def settled : Value → Value
  | timestamp t => timestamp (t.utc?.getD t).toSecond
  | date d => timestamp (.midnight d)
  | list items => list (settledItems items)
  | map entries => map (settledEntries entries)
  | v => v

/-- Items with plain clock readings in them. -/
def settledItems : List Value → List Value
  | [] => []
  | v :: vs => settled v :: settledItems vs

/-- Entries with plain clock readings in their values. -/
def settledEntries : List (Value × Value) → List (Value × Value)
  | [] => []
  | (k, v) :: es => (k, settled v) :: settledEntries es

end

@[simp] lemma settledItems_eq (items : List Value) : settledItems items = items.map settled := by
  induction items with
  | nil => rfl
  | cons v vs ih => rw [settledItems, ih, List.map_cons]

@[simp] lemma settledEntries_eq (entries : Entries) :
    settledEntries entries = entries.map fun e => (e.1, e.2.settled) := by
  induction entries with
  | nil => rfl
  | cons e es ih => rw [settledEntries, ih, List.map_cons]

end Value

namespace Codec

open Entries (ProperKeys)
open Value (jsonForm)

/-! ## Positions -/

/-- The descriptor that is declared for a place in a document, if there is one. -/
abbrev Position := Option Descriptor

namespace Position

/-- The position of what stands under a name in a mapping. -/
def sub (position : Position) (name : Value) : Position :=
  position.bind fun d => d.nested.bind (Fields.get? name)

/-- The names at a position are proper at every depth. -/
def Proper (position : Position) : Prop := ∀ d ∈ position, d.Proper

/-- No field of the given type is declared at a position. -/
def IsNot (position : Position) (kind : FieldKind) : Prop := ∀ d ∈ position, d.kind ≠ kind

lemma proper_get? {fields : Fields} (h : fields.Proper) (name : Value) :
    Proper (fields.get? name) := by
  intro d hd
  obtain ⟨f, hf, -, rfl⟩ := Fields.exists_mem_of_get? hd
  exact h.descriptors f hf

lemma Proper.sub {position : Position} (h : position.Proper) (name : Value) :
    (position.sub name).Proper := by
  cases position with
  | none => intro d hd; cases hd
  | some d =>
    cases h d rfl with
    | plain => intro d hd; cases hd
    | nested names descriptors => exact proper_get? ⟨names, descriptors⟩ name

end Position

/-- A value at a position: dates and points in time of the years from 1000 on stand in temporal
positions and nothing else does, truth values stand in boolean positions and nothing else does. -/
inductive Restorable : Position → Value → Prop
  | null (position : Position) : Restorable position .null
  | date {d : Descriptor} {day : Date} (hkind : d.kind = .temporal) (hvalid : day.Valid)
      (hyear : 1000 ≤ day.year) : Restorable (some d) (.date day)
  | timestamp {d : Descriptor} {t reading : Timestamp} (hkind : d.kind = .temporal)
      (hvalid : t.Valid) (hutc : t.utc? = some reading) (hyear : 1000 ≤ reading.date.year) :
      Restorable (some d) (.timestamp t)
  | bool {position : Position} (ht : position.IsNot .temporal) (b : Bool) :
      Restorable position (.bool b)
  | int {position : Position} (ht : position.IsNot .temporal) (hb : position.IsNot .boolean)
      (n : Int) : Restorable position (.int n)
  | text {position : Position} (ht : position.IsNot .temporal) (hb : position.IsNot .boolean)
      (s : String) : Restorable position (.text s)
  | list {position : Position} (ht : position.IsNot .temporal) (hb : position.IsNot .boolean)
      {items : List Value} (h : ∀ v ∈ items, Restorable none v) :
      Restorable position (.list items)
  | map {position : Position} (ht : position.IsNot .temporal) (hb : position.IsNot .boolean)
      {entries : Entries} (hnamed : entries.Named)
      (h : ∀ e ∈ entries, Restorable (position.sub e.1) e.2) : Restorable position (.map entries)

lemma Restorable.portable {position : Position} {v : Value} (h : Restorable position v) :
    v.Portable := by
  induction h with
  | null => exact .null
  | date => exact .date _
  | timestamp _ _ hutc => exact .timestamp (by rw [hutc]; rfl)
  | bool _ b => exact .bool b
  | int _ _ n => exact .int n
  | text _ _ s => exact .text s
  | list _ _ _ ih => exact .list ih
  | map _ _ hnamed _ ih => exact .map hnamed ih

/-! ## Restoring at a position -/

/-- The value at a position as the position has it. -/
def restoreAt (position : Position) (value : Value) : Value :=
  match position with
  | none => value
  | some d => restore d value

/-- Restoring fields in order restores every entry at the position of its name. -/
lemma restoreFields_eq {fields : Fields} (hnames : ProperKeys fields.names) {entries : Entries}
    (hkeys : ProperKeys entries.keys) :
    restoreFields fields entries =
      entries.map fun e => (e.1, restoreAt (fields.get? e.1) e.2) := by
  induction fields generalizing entries with
  | nil => simp [restoreFields, Fields.get?, restoreAt]
  | cons f fields ih =>
    obtain ⟨name, d⟩ := f
    obtain ⟨hname, hne, hrest⟩ := Entries.properKeys_cons.1 hnames
    have hkey : ∀ e ∈ entries, e.1.canBeKey = true := fun e he =>
      hkeys.canBeKey _ (List.mem_map_of_mem he)
    cases hget : Entries.get? name entries with
    | none =>
      rw [restoreFields, hget]
      dsimp only
      rw [ih hrest hkeys]
      refine List.map_congr_left fun e he => ?_
      have hother := Entries.get?_eq_none_iff.1 hget e he
      rw [Value.same_symm (hkey e he) hname] at hother
      rw [Fields.get?_cons_of_not_same hother]
    | some value =>
      rw [restoreFields, hget]
      dsimp only
      rw [ih hrest (Entries.properKeys_put hkeys hname),
        Entries.put_of_present hkeys hname (by rw [hget]; simp), List.map_map]
      refine List.map_congr_left fun e he => ?_
      cases hsame : e.1.same name with
      | true =>
        -- the field that has just been restored is not declared again
        have hvalue : value = e.2 := by
          have := Entries.get?_of_mem hkeys hname he hsame
          rw [hget] at this
          exact Option.some.inj this
        rw [Value.same_symm (hkey e he) hname] at hsame
        have habsent : Fields.get? e.1 fields = none :=
          Fields.get?_eq_none_of_same hnames (hkey e he) hsame
        simp only [Function.comp, Value.same_symm (hkey e he) hname, hsame, if_true, habsent,
          Fields.get?_cons_of_same hsame, restoreAt, hvalue]
      | false =>
        have hother := hsame
        rw [Value.same_symm (hkey e he) hname] at hother
        simp only [Function.comp, hsame, Bool.false_eq_true, if_false,
          Fields.get?_cons_of_not_same hother]

lemma restore_text (d : Descriptor) (s : String) :
    restore d (.text s) =
      if d.kind = .temporal then ((readTemporal? s).map Value.timestamp).getD (.text s)
      else .text s := by
  cases d
  rfl

lemma restoreAt_text {position : Position} (ht : position.IsNot .temporal) (s : String) :
    restoreAt position (.text s) = .text s := by
  cases position with
  | none => rfl
  | some d => rw [restoreAt, restore_text, if_neg (ht d rfl)]

/-- The text of a point in time is restored at a temporal position. -/
lemma restoreAt_storageText {d : Descriptor} (hkind : d.kind = .temporal) {t : Timestamp}
    (ht : t.Valid) (hyear : 1000 ≤ t.date.year) (hoffset : t.offset = none) :
    restoreAt (some d) (.text t.storageText) = .timestamp t.toSecond := by
  rw [restoreAt, restore_text, if_pos hkind, readTemporal?_storageText ht hyear hoffset]
  rfl

lemma restoreAt_null (position : Position) : restoreAt position .null = .null := by
  rcases position with - | ⟨-, -, -⟩ <;> rfl

lemma restoreAt_bool (position : Position) (b : Bool) : restoreAt position (.bool b) = .bool b := by
  rcases position with - | ⟨-, -, -⟩ <;> rfl

lemma restoreAt_list (position : Position) (items : List Value) :
    restoreAt position (.list items) = .list items := by
  rcases position with - | ⟨-, -, -⟩ <;> rfl

lemma restore_int (d : Descriptor) (n : Int) :
    restore d (.int n) = if d.kind = .boolean then .bool (n != 0) else .int n := by
  cases d
  rfl

lemma restoreAt_int {position : Position} (hb : position.IsNot .boolean) (n : Int) :
    restoreAt position (.int n) = .int n := by
  cases position with
  | none => rfl
  | some d => rw [restoreAt, restore_int, if_neg (hb d rfl)]

/-- A mapping is restored entry by entry, each at its own position. -/
lemma restoreAt_map {position : Position} (hp : position.Proper) {entries : Entries}
    (hkeys : ProperKeys entries.keys) :
    restoreAt position (.map entries) =
      .map (entries.map fun e => (e.1, restoreAt (position.sub e.1) e.2)) := by
  have hid : (entries.map fun e => (e.1, e.2)) = entries := List.map_id _
  cases position with
  | none => rw [restoreAt]; exact congrArg Value.map hid.symm
  | some d =>
    cases hp d rfl with
    | plain kind default => exact congrArg Value.map hid.symm
    | nested names descriptors => exact congrArg Value.map (restoreFields_eq names hkeys)

lemma jsonForm_timestamp {t reading : Timestamp} (h : t.utc? = some reading) :
    jsonForm (.timestamp t) = .text reading.storageText := by
  have hformat : formatTimestamp t = .ok reading.storageText := by rw [formatTimestamp, h]
  simp [jsonForm, formatTemporal, hformat]

lemma jsonForm_date (d : Date) : jsonForm (.date d) = .text (Timestamp.midnight d).storageText := by
  simp [jsonForm, formatTemporal, formatDate]

/-- What is read back of a value is restored at its position. -/
lemma restoreAt_jsonForm {position : Position} {v : Value} (h : Restorable position v)
    (hp : position.Proper) : restoreAt position v.jsonForm = v.settled := by
  induction h with
  | null position => exact restoreAt_null position
  | @date d day hkind hvalid hyear =>
    rw [jsonForm_date, restoreAt_storageText hkind (Timestamp.valid_midnight hvalid) hyear rfl]
    rfl
  | timestamp hkind hvalid hutc hyear =>
    obtain ⟨hreading, hoffset, -⟩ := Timestamp.utc?_spec hvalid hutc
    rw [jsonForm_timestamp hutc, restoreAt_storageText hkind hreading hyear hoffset, Value.settled,
      hutc]
    rfl
  | bool _ b => exact restoreAt_bool _ b
  | int _ hb n => exact restoreAt_int hb n
  | text ht _ s => exact restoreAt_text ht s
  | list _ _ _ ih =>
    have hitems := List.map_congr_left fun v hv => ih v hv (by intro d hd; cases hd)
    rw [jsonForm, Value.jsonForms_eq, restoreAt_list, Value.settled, Value.settledItems_eq]
    exact congrArg Value.list hitems
  | @map position _ _ entries hnamed _ ih =>
    have hkeys : Entries.keys (entries.map fun e => (e.1, e.2.jsonForm)) = entries.keys := by
      rw [Entries.keys, List.map_map]
      rfl
    rw [jsonForm, Value.jsonFormEntries_eq, restoreAt_map hp (hkeys ▸ hnamed.properKeys),
      Value.settled, Value.settledEntries_eq, List.map_map]
    refine congrArg Value.map (List.map_congr_left fun e he => ?_)
    exact congrArg (Prod.mk e.1) (ih e he (hp.sub e.1))

end Codec
end DocTable
