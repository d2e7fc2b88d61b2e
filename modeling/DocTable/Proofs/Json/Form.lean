/-
# What JSON text keeps of a value

A value that JSON text can carry is built from texts, integers, truth values, dates, points in time
and the absence of a value, by sequences and by mappings with names. Its JSON form is the same value
with lists for tuples and texts for dates and points in time.

Reading is bounded in two ways: in how deep lists and objects are nested, and in the number of
digits of an integer. `readBack` is what a reader with these bounds gives for the text of a value,
and the main statement is that it gives the JSON form exactly when the value keeps within both.
-/
import DocTable.Codec.Temporal
import DocTable.Json.Reader
import DocTable.Proofs.Value.Entries
import Mathlib.Algebra.Order.Ring.Nat

namespace DocTable

lemma Number.isTooLong_eq_false_of_lt {n : Int} (count : Nat) (h : n.natAbs < 10 ^ count)
    (hcount : count ≤ digitLimit) : isTooLong n = false := by
  have hpow := Nat.pow_le_pow_right (show 10 > 0 by decide) hcount
  rw [← Bool.not_eq_true, isTooLong, decide_eq_true_eq, Nat.pow_eq, Nat.not_le]
  generalize 10 ^ digitLimit = bound at hpow ⊢
  exact Nat.lt_of_lt_of_le h hpow

namespace Value

/-- A value that JSON text can carry. -/
inductive Portable : Value → Prop
  | null : Portable null
  | bool (b : Bool) : Portable (bool b)
  | int (n : Int) : Portable (int n)
  | text (s : String) : Portable (text s)
  | date (d : Date) : Portable (date d)
  | timestamp {t : Timestamp} (h : t.utc?.isSome) : Portable (timestamp t)
  | list {items : List Value} (h : ∀ v ∈ items, Portable v) : Portable (list items)
  | tuple {items : List Value} (h : ∀ v ∈ items, Portable v) : Portable (tuple items)
  | map {entries : Entries} (hn : entries.Named) (h : ∀ e ∈ entries, Portable e.2) :
      Portable (map entries)

/-- Whether a value is stored as JSON text. -/
def isStructure : Value → Bool
  | list _ => true
  | tuple _ => true
  | map _ => true
  | _ => false

mutual

/-- A value with lists for tuples and texts for dates and points in time. -/
def jsonForm : Value → Value
  | list items => list (jsonForms items)
  | tuple items => list (jsonForms items)
  | map entries => map (jsonFormEntries entries)
  | v =>
    match Codec.formatTemporal v with
    | .ok s => text s
    | .error _ => v

/-- The JSON forms of the items of a sequence. -/
def jsonForms : List Value → List Value
  | [] => []
  | v :: vs => jsonForm v :: jsonForms vs

/-- Entries with the JSON forms of their values. -/
def jsonFormEntries : List (Value × Value) → List (Value × Value)
  | [] => []
  | (k, v) :: es => (k, jsonForm v) :: jsonFormEntries es

end

mutual

/-- How deep sequences and mappings are nested in a value. -/
def nesting : Value → Nat
  | list items => nestingOfItems items + 1
  | tuple items => nestingOfItems items + 1
  | map entries => nestingOfEntries entries + 1
  | _ => 0

/-- How deep sequences and mappings are nested in some items. -/
def nestingOfItems : List Value → Nat
  | [] => 0
  | v :: vs => max (nesting v) (nestingOfItems vs)

/-- How deep sequences and mappings are nested in the values of some entries. -/
def nestingOfEntries : List (Value × Value) → Nat
  | [] => 0
  | (_, v) :: es => max (nesting v) (nestingOfEntries es)

end

mutual

/-- Whether an integer in a value has too many digits. -/
def hasLongInteger : Value → Bool
  | int n => Number.isTooLong n
  | list items => itemsHaveLongInteger items
  | tuple items => itemsHaveLongInteger items
  | map entries => entriesHaveLongInteger entries
  | _ => false

/-- Whether an integer in some items has too many digits. -/
def itemsHaveLongInteger : List Value → Bool
  | [] => false
  | v :: vs => hasLongInteger v || itemsHaveLongInteger vs

/-- Whether an integer in the values of some entries has too many digits. -/
def entriesHaveLongInteger : List (Value × Value) → Bool
  | [] => false
  | (_, v) :: es => hasLongInteger v || entriesHaveLongInteger es

end

/-- A value that a reader reads whose lists and objects may be nested `room` deep. -/
structure Readable (room : Nat) (v : Value) : Prop where
  nesting_le : v.nesting ≤ room
  noLongInteger : v.hasLongInteger = false

end Value

namespace Json

mutual

/-- What a reader gives for the text of a value. -/
def readBack : Nat → Value → Except Problem Value
  | _, .int n => if Number.isTooLong n then .error .longInteger else .ok (.int n)
  | 0, .list _ => .error .tooDeep
  | 0, .tuple _ => .error .tooDeep
  | 0, .map _ => .error .tooDeep
  | room + 1, .list items => (readBackItems room items).map .list
  | room + 1, .tuple items => (readBackItems room items).map .list
  | room + 1, .map entries => (readBackEntries room entries).map .map
  | _, v => .ok v.jsonForm

/-- What a reader gives for the texts of the items of a list. -/
def readBackItems : Nat → List Value → Except Problem (List Value)
  | _, [] => .ok []
  | room, v :: vs => do
    let w ← readBack room v
    return w :: (← readBackItems room vs)

/-- What a reader gives for the texts of the entries of a mapping. -/
def readBackEntries : Nat → List (Value × Value) → Except Problem (List (Value × Value))
  | _, [] => .ok []
  | room, (k, v) :: es => do
    let w ← readBack room v
    return (k, w) :: (← readBackEntries room es)

end

end Json

namespace Value

/-! ## Structures as lists -/

@[simp] lemma jsonForms_eq (items : List Value) : jsonForms items = items.map jsonForm := by
  induction items with
  | nil => rfl
  | cons v vs ih => rw [jsonForms, ih, List.map_cons]

@[simp] lemma jsonFormEntries_eq (entries : Entries) :
    jsonFormEntries entries = entries.map fun e => (e.1, e.2.jsonForm) := by
  induction entries with
  | nil => rfl
  | cons e es ih => rw [jsonFormEntries, ih, List.map_cons]

lemma nestingOfItems_le {items : List Value} {room : Nat} :
    nestingOfItems items ≤ room ↔ ∀ v ∈ items, v.nesting ≤ room := by
  induction items with
  | nil => simp [nestingOfItems]
  | cons v vs ih => rw [nestingOfItems, Nat.max_le, ih, List.forall_mem_cons]

lemma nestingOfEntries_eq (entries : Entries) :
    nestingOfEntries entries = nestingOfItems (entries.map Prod.snd) := by
  induction entries with
  | nil => rfl
  | cons e es ih => rw [nestingOfEntries, ih, List.map_cons, nestingOfItems]

lemma itemsHaveLongInteger_eq_false {items : List Value} :
    itemsHaveLongInteger items = false ↔ ∀ v ∈ items, v.hasLongInteger = false := by
  induction items with
  | nil => simp [itemsHaveLongInteger]
  | cons v vs ih => simp [itemsHaveLongInteger, ih]

lemma entriesHaveLongInteger_eq (entries : Entries) :
    entriesHaveLongInteger entries = itemsHaveLongInteger (entries.map Prod.snd) := by
  induction entries with
  | nil => rfl
  | cons e es ih => rw [entriesHaveLongInteger, ih, List.map_cons, itemsHaveLongInteger]

/-! ## Which structures are readable -/

lemma not_readable_zero_list (items : List Value) : ¬Readable 0 (list items) :=
  fun h => absurd h.nesting_le (by simp [nesting])

lemma not_readable_zero_map (entries : Entries) : ¬Readable 0 (map entries) :=
  fun h => absurd h.nesting_le (by simp [nesting])

lemma readable_list_iff {room : Nat} {items : List Value} :
    Readable (room + 1) (list items) ↔ ∀ v ∈ items, Readable room v := by
  constructor
  · rintro ⟨hn, hl⟩ v hv
    rw [nesting, Nat.add_le_add_iff_right, nestingOfItems_le] at hn
    rw [hasLongInteger, itemsHaveLongInteger_eq_false] at hl
    exact ⟨hn v hv, hl v hv⟩
  · intro h
    refine ⟨?_, ?_⟩
    · rw [nesting, Nat.add_le_add_iff_right, nestingOfItems_le]
      exact fun v hv => (h v hv).nesting_le
    · rw [hasLongInteger, itemsHaveLongInteger_eq_false]
      exact fun v hv => (h v hv).noLongInteger

lemma readable_tuple_iff {room : Nat} {items : List Value} :
    Readable room (tuple items) ↔ Readable room (list items) :=
  ⟨fun h => ⟨h.nesting_le, h.noLongInteger⟩, fun h => ⟨h.nesting_le, h.noLongInteger⟩⟩

/-- A mapping is as readable as the list of its values. -/
lemma readable_map_iff_list {room : Nat} {entries : Entries} :
    Readable room (map entries) ↔ Readable room (list (entries.map Prod.snd)) := by
  constructor
  · rintro ⟨hn, hl⟩
    rw [nesting, nestingOfEntries_eq] at hn
    rw [hasLongInteger, entriesHaveLongInteger_eq] at hl
    exact ⟨hn, hl⟩
  · rintro ⟨hn, hl⟩
    refine ⟨?_, ?_⟩
    · rw [nesting, nestingOfEntries_eq]; exact hn
    · rw [hasLongInteger, entriesHaveLongInteger_eq]; exact hl

lemma readable_map_iff {room : Nat} {entries : Entries} :
    Readable (room + 1) (map entries) ↔ ∀ e ∈ entries, Readable room e.2 := by
  rw [readable_map_iff_list, readable_list_iff, List.forall_mem_map]

lemma readable_leaf {room : Nat} {v : Value} (hn : v.nesting = 0)
    (hl : v.hasLongInteger = false) : Readable room v :=
  ⟨by omega, hl⟩

end Value

namespace Json

open Value

/-! ## What is read back -/

/-- For a value, reading its text gives its JSON form if it is readable and fails otherwise. -/
def ReadsForm (v : Value) : Prop :=
  ∀ room w, readBack room v = .ok w ↔ Readable room v ∧ w = v.jsonForm

lemma readBackItems_eq_ok_iff {items : List Value} (h : ∀ v ∈ items, ReadsForm v) (room : Nat)
    (ws : List Value) :
    readBackItems room items = .ok ws ↔
      (∀ v ∈ items, Readable room v) ∧ ws = items.map jsonForm := by
  induction items generalizing ws with
  | nil => simp [readBackItems, eq_comm]
  | cons v vs ih =>
    have hv := h v List.mem_cons_self room
    have hvs := ih fun u hu => h u (List.mem_cons_of_mem _ hu)
    simp only [readBackItems, bind_eq_ok_iff, hv, hvs, pure_eq_ok, Except.ok.injEq,
      List.forall_mem_cons, List.map_cons]
    constructor
    · rintro ⟨w, ⟨hr, rfl⟩, ws, ⟨hrs, rfl⟩, rfl⟩
      exact ⟨⟨hr, hrs⟩, rfl⟩
    · rintro ⟨⟨hr, hrs⟩, rfl⟩
      exact ⟨_, ⟨hr, rfl⟩, _, ⟨hrs, rfl⟩, rfl⟩

lemma readBackEntries_eq_ok_iff {entries : Entries} (h : ∀ e ∈ entries, ReadsForm e.2) (room : Nat)
    (ws : Entries) :
    readBackEntries room entries = .ok ws ↔
      (∀ e ∈ entries, Readable room e.2) ∧ ws = entries.map fun e => (e.1, e.2.jsonForm) := by
  induction entries generalizing ws with
  | nil => simp [readBackEntries, eq_comm]
  | cons e es ih =>
    have he := h e List.mem_cons_self room
    have hes := ih fun u hu => h u (List.mem_cons_of_mem _ hu)
    simp only [readBackEntries, bind_eq_ok_iff, he, hes, pure_eq_ok, Except.ok.injEq,
      List.forall_mem_cons, List.map_cons]
    constructor
    · rintro ⟨w, ⟨hr, rfl⟩, ws, ⟨hrs, rfl⟩, rfl⟩
      exact ⟨⟨hr, hrs⟩, rfl⟩
    · rintro ⟨⟨hr, hrs⟩, rfl⟩
      exact ⟨_, ⟨hr, rfl⟩, _, ⟨hrs, rfl⟩, rfl⟩

lemma readsForm_leaf {v : Value} (hread : ∀ room, readBack room v = .ok v.jsonForm)
    (hn : v.nesting = 0) (hl : v.hasLongInteger = false) : ReadsForm v := by
  intro room w
  rw [hread, Except.ok.injEq, eq_comm]
  exact ⟨fun hw => ⟨readable_leaf hn hl, hw⟩, And.right⟩

lemma readsForm_int (n : Int) : ReadsForm (.int n) := by
  intro room w
  have hform : jsonForm (.int n) = .int n := by simp [jsonForm, Codec.formatTemporal]
  rw [readBack, hform]
  split_ifs with hn
  · -- too many digits for any room
    have hnot : ¬Readable room (.int n) := fun h => by
      have := h.noLongInteger
      simp [hasLongInteger, hn] at this
    simp [hnot]
  · have hr : Readable room (.int n) :=
      readable_leaf rfl (by simpa [hasLongInteger] using hn)
    simp [hr, eq_comm]

lemma readsForm_list {items : List Value} (h : ∀ v ∈ items, ReadsForm v) :
    ReadsForm (.list items) := by
  intro room w
  cases room with
  | zero => simp [readBack, not_readable_zero_list]
  | succ room =>
    simp only [readBack, map_eq_ok_iff, readBackItems_eq_ok_iff h, readable_list_iff, jsonForm,
      jsonForms_eq]
    constructor
    · rintro ⟨ws, ⟨hr, rfl⟩, rfl⟩
      exact ⟨hr, rfl⟩
    · rintro ⟨hr, rfl⟩
      exact ⟨_, ⟨hr, rfl⟩, rfl⟩

lemma readBack_tuple (room : Nat) (items : List Value) :
    readBack room (.tuple items) = readBack room (.list items) := by
  cases room <;> rfl

lemma readsForm_map {entries : Entries} (h : ∀ e ∈ entries, ReadsForm e.2) :
    ReadsForm (.map entries) := by
  intro room w
  cases room with
  | zero => simp [readBack, not_readable_zero_map]
  | succ room =>
    simp only [readBack, map_eq_ok_iff, readBackEntries_eq_ok_iff h, readable_map_iff, jsonForm,
      jsonFormEntries_eq]
    constructor
    · rintro ⟨ws, ⟨hr, rfl⟩, rfl⟩
      exact ⟨hr, rfl⟩
    · rintro ⟨hr, rfl⟩
      exact ⟨_, ⟨hr, rfl⟩, rfl⟩

/-- A portable value is read back in its JSON form exactly when it is readable. -/
lemma readsForm_of_portable {v : Value} (hv : Portable v) : ReadsForm v := by
  induction hv with
  | null => exact readsForm_leaf (fun room => by cases room <;> rfl) rfl rfl
  | bool b => exact readsForm_leaf (fun room => by cases room <;> rfl) rfl rfl
  | int n => exact readsForm_int n
  | text s => exact readsForm_leaf (fun room => by cases room <;> rfl) rfl rfl
  | date d => exact readsForm_leaf (fun room => by cases room <;> rfl) rfl rfl
  | timestamp h => exact readsForm_leaf (fun room => by cases room <;> rfl) rfl rfl
  | list _ ih => exact readsForm_list ih
  | tuple _ ih =>
    intro room w
    rw [readBack_tuple, readsForm_list ih, readable_tuple_iff]
    rfl
  | map _ _ ih => exact readsForm_map ih

end Json
end DocTable
