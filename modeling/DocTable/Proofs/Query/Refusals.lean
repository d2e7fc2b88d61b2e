/-
# Filters that do not compile

A filter fails to compile for one reason only: under a path that is a text, an operand has to be
stored and has no stored form. A value under a path is such an operand itself unless it is a
document of comparisons; of a document of comparisons they are the operands of those comparisons
that are known, for a membership all members that are asked for, and none for a pattern.

An operand has no stored form if there is an obstacle anywhere in it: a point in time that leaves
the calendar when its clock is set to offset zero, or a mapping with a key that cannot be the key of
a JSON object. What is no mapping, what stands under another path than a text, what is compared in
a way that is not known and what is empty never keeps a filter from compiling.
-/
import DocTable.Proofs.Query.Operands
import DocTable.Proofs.Query.Parameters

namespace DocTable

/-! ## Obstacles -/

namespace Timestamp

/-- A point in time with an offset that lies before the year 1 or after the year 9999 when its clock
is set to offset zero. -/
def LeavesCalendar (t : Timestamp) : Prop :=
  t.offset.isSome = true ∧
    (t.utcSeconds < (Date.daysBeforeYear 1 * 86400 : Nat) ∨
      (Date.daysBeforeYear 10000 * 86400 : Nat) ≤ t.utcSeconds)

lemma utc?_isSome_eq_false_iff {t : Timestamp} : t.utc?.isSome = false ↔ t.LeavesCalendar := by
  have hfirst : Date.daysBeforeYear 1 = 0 := rfl
  have hlast : Date.daysBeforeYear 10000 = Date.dayCount := rfl
  rw [LeavesCalendar, utc?, hfirst, hlast]
  cases t.offset with
  | none => simp
  | some offset =>
    dsimp only
    split_ifs with hinside
    · simp only [Option.isSome_some, Bool.true_eq_false, true_and, false_iff]
      omega
    · simp only [Option.isSome_none, Option.isSome_some, true_and, true_iff]
      omega

end Timestamp

namespace Value

/-- A value contains itself, and what items of a sequence and values of a mapping contain. -/
inductive Contains : Value → Value → Prop
  | self (v : Value) : Contains v v
  | list {items : List Value} {item part : Value} (hitem : item ∈ items)
      (h : Contains item part) : Contains (list items) part
  | tuple {items : List Value} {item part : Value} (hitem : item ∈ items)
      (h : Contains item part) : Contains (tuple items) part
  | set {items : List Value} {item part : Value} (hitem : item ∈ items)
      (h : Contains item part) : Contains (set items) part
  | map {entries : Entries} {entry : Value × Value} {part : Value} (hentry : entry ∈ entries)
      (h : Contains entry.2 part) : Contains (map entries) part

/-- What has no stored form, wherever it stands: a point in time that leaves the calendar, and a
mapping with a key that cannot be the key of a JSON object. -/
inductive Obstacle : Value → Prop
  | timestamp {t : Timestamp} (h : t.LeavesCalendar) : Obstacle (timestamp t)
  | key {entries : Entries} {key : Value} (hkey : key ∈ entries.keys)
      (h : key.isJsonKey = false) : Obstacle (map entries)

/-- A value with an obstacle in it. -/
def Obstructed (v : Value) : Prop := ∃ part, v.Contains part ∧ part.Obstacle

lemma Obstacle.obstructed {v : Value} (h : v.Obstacle) : v.Obstructed := ⟨v, .self v, h⟩

mutual

/-- What has no stored form contains an obstacle. -/
lemma obstructed_of_isEncodable : ∀ {v : Value}, v.isEncodable = false → v.Obstructed
  | timestamp _, h => (Obstacle.timestamp (Timestamp.utc?_isSome_eq_false_iff.1 h)).obstructed
  | list _, h => by
    obtain ⟨item, hitem, part, hpart, hobstacle⟩ := exists_obstructed_of_allEncodable h
    exact ⟨part, .list hitem hpart, hobstacle⟩
  | tuple _, h => by
    obtain ⟨item, hitem, part, hpart, hobstacle⟩ := exists_obstructed_of_allEncodable h
    exact ⟨part, .tuple hitem hpart, hobstacle⟩
  | set _, h => by
    obtain ⟨item, hitem, part, hpart, hobstacle⟩ := exists_obstructed_of_allEncodable h
    exact ⟨part, .set hitem hpart, hobstacle⟩
  | map _, h => by
    obtain ⟨entry, hentry, hkey | ⟨part, hpart, hobstacle⟩⟩ :=
      exists_obstructed_of_entriesEncodable h
    · exact (Obstacle.key (List.mem_map_of_mem hentry) hkey).obstructed
    · exact ⟨part, .map hentry hpart, hobstacle⟩

lemma exists_obstructed_of_allEncodable : ∀ {items : List Value}, allEncodable items = false →
    ∃ item ∈ items, item.Obstructed
  | item :: items, h => by
    rw [allEncodable, Bool.and_eq_false_iff] at h
    rcases h with h | h
    · exact ⟨item, List.mem_cons_self, obstructed_of_isEncodable h⟩
    · obtain ⟨other, hother, hobstructed⟩ := exists_obstructed_of_allEncodable h
      exact ⟨other, List.mem_cons_of_mem _ hother, hobstructed⟩

lemma exists_obstructed_of_entriesEncodable : ∀ {entries : Entries},
    entriesEncodable entries = false →
      ∃ entry ∈ entries, entry.1.isJsonKey = false ∨ entry.2.Obstructed
  | (key, value) :: entries, h => by
    rw [entriesEncodable, Bool.and_eq_false_iff, Bool.and_eq_false_iff] at h
    rcases h with (h | h) | h
    · exact ⟨(key, value), List.mem_cons_self, .inl h⟩
    · exact ⟨(key, value), List.mem_cons_self, .inr (obstructed_of_isEncodable h)⟩
    · obtain ⟨other, hother, hobstructed⟩ := exists_obstructed_of_entriesEncodable h
      exact ⟨other, List.mem_cons_of_mem _ hother, hobstructed⟩

end

/-- What a membership in a value asks for: its items or its keys, and the value by itself if it is
neither a sequence nor a mapping. -/
inductive HasMember : Value → Value → Prop
  | list {items : List Value} {item : Value} (h : item ∈ items) : HasMember (list items) item
  | tuple {items : List Value} {item : Value} (h : item ∈ items) : HasMember (tuple items) item
  | set {items : List Value} {item : Value} (h : item ∈ items) : HasMember (set items) item
  | key {entries : Entries} {key : Value} (h : key ∈ entries.keys) : HasMember (map entries) key
  | alone {v : Value} (h : v.isComposite = false) : HasMember v v

/-- The operands that a value under a path of a filter has to store. -/
inductive Stores : Value → Value → Prop
  | whole {v : Value} (h : Operator.isDocument v = false) : Stores v v
  | compared {entries : Entries} {name operand : Value} {op : Operator}
      (hdocument : Operator.isDocument (map entries) = true) (hmem : (name, operand) ∈ entries)
      (hop : Operator.resolve? name = some op)
      (hone : op ∈ [.equal, .notEqual, .atMost, .atLeast]) : Stores (map entries) operand
  | member {entries : Entries} {name operand v : Value}
      (hdocument : Operator.isDocument (map entries) = true) (hmem : (name, operand) ∈ entries)
      (hop : Operator.resolve? name = some .memberOf) (hv : operand.HasMember v) :
      Stores (map entries) v

end Value

/-- A member with a tuple for a key is an obstacle; under an unknown name it is none. -/
example (d : Dialect) :
    (∃ fault, compileFilter d (.map [(.text "a", .map [(.text "$in",
      .list [.int 1, .map [(.tuple [], .null)]])])]) = .error fault) ∧
    compileFilter d (.map [(.text "a", .map [(.text "$near",
      .list [.int 1, .map [(.tuple [], .null)]])])]) = .ok [] :=
  ⟨⟨_, rfl⟩, rfl⟩

end DocTable
