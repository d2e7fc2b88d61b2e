/-
# What filling in defaults keeps

A mapping that is filled in keeps its entries in their order. An entry keeps its value, unless that
is a mapping and sub-fields are declared for it: then the value is filled in turn. New entries go to
the end, one for each declared field that has a default and is not held yet, in order of
declaration. What is held without a value is held all the same.

One field at a time is filled in. Since no two declared names are the same, what has been done for
one field is not touched when the others are filled, so that the steps for single fields join to the
step for all of them.
-/
import DocTable.Proofs.Codec.Defaults
import DocTable.Proofs.Schema.Fields
import Mathlib.Data.List.Forall2

namespace DocTable

open Entries (ProperKeys)

namespace Fields

/-- The sub-fields that are declared under a name, if any are. -/
def subFields (fields : Fields) (name : Value) : Option Fields :=
  (fields.get? name).bind Descriptor.nested

/-- The declared fields that some entries do not hold although there is a default. -/
def gaps (fields : Fields) (entries : Entries) : Fields :=
  fields.filter fun f => !Entries.has f.1 entries && f.2.default.isSome

section SubFields

variable {name key : Value} {d : Descriptor} {fields : Fields}

lemma subFields_cons_of_same (h : name.same key = true) :
    subFields ((name, d) :: fields) key = d.nested := by
  rw [subFields, get?_cons_of_same h]
  rfl

lemma subFields_cons_of_not_same (h : name.same key = false) :
    subFields ((name, d) :: fields) key = subFields fields key := by
  rw [subFields, subFields, get?_cons_of_not_same h]

lemma subFields_eq_none_of_same (hnames : ProperKeys (names ((name, d) :: fields)))
    (hkey : key.canBeKey = true) (hsame : name.same key = true) : subFields fields key = none := by
  rw [subFields, get?_eq_none_of_same hnames hkey hsame]
  rfl

end SubFields

lemma gaps_congr {fields : Fields} {entries others : Entries}
    (h : ∀ f ∈ fields, Entries.has f.1 entries = Entries.has f.1 others) :
    fields.gaps entries = fields.gaps others :=
  List.filter_congr fun f hf => by rw [h f hf]

lemma gaps_cons (f : Value × Descriptor) (fields : Fields) (entries : Entries) :
    gaps (f :: fields) entries = gaps [f] entries ++ gaps fields entries := by
  rw [gaps, gaps, gaps, ← List.filter_append, List.singleton_append]

end Fields

namespace Codec

/-- A value that is only extended by defaults, where some sub-fields may be declared for it. -/
inductive Extends : Option Fields → Value → Value → Prop
  /-- What is no mapping with declared sub-fields stays as it is: nothing at all, any other value
  that is no mapping, and whatever stands under a name that is not declared. -/
  | same {sub : Option Fields} {v : Value} (h : sub = none ∨ v.isMap = false) : Extends sub v v
  /-- A mapping keeps its keys in order, each value is extended by what is declared for it, and the
  gaps are supplied behind them. -/
  | map {fields : Fields} {before added : Entries} (new : Value × Value → Value)
      (kept : ∀ e ∈ before, Extends (fields.subFields e.1) e.2 (new e))
      (supplied : List.Forall₂ (fun f e => e.1 = f.1 ∧ Supplies f.2 e.2) (fields.gaps before)
        added) :
      Extends (some fields) (.map before) (.map (before.map (fun e => (e.1, new e)) ++ added))

namespace Extends

lemma none_iff {v w : Value} : Extends none v w ↔ w = v := by
  constructor
  · rintro ⟨⟩
    rfl
  · rintro rfl
    exact .same (.inl rfl)

end Extends

/-! ## One field after the other -/

lemma keys_of_supplied {fields : Fields} {added : Entries}
    (h : List.Forall₂ (fun f e => e.1 = f.1 ∧ Supplies f.2 e.2) fields added) :
    added.keys = fields.names := by
  induction h with
  | nil => rfl
  | cons hfirst _ ih => exact congrArg₂ List.cons hfirst.1 ih

lemma eq_of_mem_supplied {name : Value} {d : Descriptor} {entries added : Entries}
    (h : List.Forall₂ (fun f e => e.1 = f.1 ∧ Supplies f.2 e.2)
      (Fields.gaps [(name, d)] entries) added) {e : Value × Value} (he : e ∈ added) :
    e.1 = name := by
  have hmem : e.1 ∈ added.keys := List.mem_map_of_mem he
  rw [keys_of_supplied h] at hmem
  obtain ⟨f, hf, heq⟩ := List.mem_map.1 hmem
  have hf := (List.mem_filter.1 hf).1
  rw [List.mem_singleton] at hf
  rw [← heq, hf]

/-- What was supplied for the first field is not touched by the step for the others. -/
lemma map_eq_of_supplied {name : Value} {d : Descriptor} {fields : Fields}
    {entries added : Entries} (hnames : ProperKeys (Fields.names ((name, d) :: fields)))
    (supplied : List.Forall₂ (fun f e => e.1 = f.1 ∧ Supplies f.2 e.2)
      (Fields.gaps [(name, d)] entries) added) {new : Value × Value → Value}
    (kept : ∀ e ∈ added, Extends (fields.subFields e.1) e.2 (new e)) :
    (added.map fun e => (e.1, new e)) = added := by
  have hname : name.canBeKey = true := (Entries.properKeys_cons.1 hnames).1
  refine Entries.map_eq_self fun e he => ?_
  have heq := eq_of_mem_supplied supplied he
  have hsame : name.same e.1 = true := heq.symm ▸ Value.same_refl hname
  have hnew := kept e he
  rwa [Fields.subFields_eq_none_of_same hnames (heq.symm ▸ hname) hsame, Extends.none_iff] at hnew

/-- The step for the first field fills no gaps of the others. -/
lemma gaps_of_supplied {name : Value} {d : Descriptor} {fields : Fields} {entries added : Entries}
    (hne : ∀ key ∈ fields.names, name.same key = false)
    (supplied : List.Forall₂ (fun f e => e.1 = f.1 ∧ Supplies f.2 e.2)
      (Fields.gaps [(name, d)] entries) added) (new : Value × Value → Value) :
    fields.gaps (entries.map (fun e => (e.1, new e)) ++ added) = fields.gaps entries := by
  refine Fields.gaps_congr fun f hf => ?_
  have hother : name.same f.1 = false := hne _ (List.mem_map_of_mem hf)
  have habsent : (added.keys.any fun k => k.same f.1) = false := by
    rw [List.any_eq_false]
    intro k hk
    obtain ⟨e, he, rfl⟩ := List.mem_map.1 hk
    rw [eq_of_mem_supplied supplied he, hother]
    exact Bool.false_ne_true
  simp only [Entries.has_eq_any, Entries.keys, List.map_append, List.any_append] at habsent ⊢
  rw [habsent, Bool.or_false, List.map_map]
  rfl

/-- A value is extended by the first field or by the others: no key is the name of both. -/
lemma Extends.trans_cons {name key : Value} {d : Descriptor} {fields : Fields}
    (hnames : ProperKeys (Fields.names ((name, d) :: fields))) (hkey : key.canBeKey = true)
    {v w u : Value} (hfirst : Extends (Fields.subFields [(name, d)] key) v w)
    (hrest : Extends (fields.subFields key) w u) :
    Extends (Fields.subFields ((name, d) :: fields) key) v u := by
  cases hsame : name.same key with
  | true =>
    rw [Fields.subFields_cons_of_same hsame] at hfirst ⊢
    rw [Fields.subFields_eq_none_of_same hnames hkey hsame, none_iff] at hrest
    exact hrest ▸ hfirst
  | false =>
    have hnone : Fields.subFields [] key = none := rfl
    rw [Fields.subFields_cons_of_not_same hsame, hnone, none_iff] at hfirst
    rw [Fields.subFields_cons_of_not_same hsame]
    exact hfirst ▸ hrest

/-- The step for the first field joins with the step for the others: what the first has changed or
supplied stands under a name that the others do not declare. -/
lemma Extends.cons {name : Value} {d : Descriptor} {fields : Fields}
    (hnames : ProperKeys (Fields.names ((name, d) :: fields))) {entries middle : Entries}
    (hkeys : ProperKeys entries.keys)
    (hfirst : Extends (some [(name, d)]) (.map entries) (.map middle)) {after : Value}
    (hrest : Extends (some fields) (.map middle) after) :
    Extends (some ((name, d) :: fields)) (.map entries) after := by
  rcases hfirst with h | @⟨_, _, added, new, kept, supplied⟩
  · rcases h with h | h <;> cases h
  rcases hrest with h | @⟨_, _, more, newer, keptNext, suppliedNext⟩
  · rcases h with h | h <;> cases h
  have hadded : (added.map fun e => (e.1, newer e)) = added :=
    map_eq_of_supplied hnames supplied fun e he => keptNext e (List.mem_append_right _ he)
  have hafter :
      (entries.map (fun e => (e.1, new e)) ++ added).map (fun e => (e.1, newer e)) ++ more =
        entries.map (fun e => (e.1, newer (e.1, new e))) ++ (added ++ more) := by
    rw [List.map_append, hadded, List.map_map, List.append_assoc]
    rfl
  rw [hafter]
  refine .map _ (fun e he => ?_) ?_
  · exact (kept e he).trans_cons hnames (hkeys.canBeKey _ (List.mem_map_of_mem he))
      (keptNext (e.1, new e) (List.mem_append_left _ (List.mem_map_of_mem he)))
  · rw [gaps_of_supplied (Entries.properKeys_cons.1 hnames).2.1 supplied] at suppliedNext
    rw [Fields.gaps_cons]
    exact List.rel_append supplied suppliedNext

/-- Entries whose values are extended by nothing, with what is supplied behind them. -/
lemma Extends.supplied {fields : Fields} {entries added : Entries}
    (h : ∀ e ∈ entries, fields.subFields e.1 = none ∨ e.2.isMap = false)
    (supplied : List.Forall₂ (fun f e => e.1 = f.1 ∧ Supplies f.2 e.2) (fields.gaps entries)
      added) :
    Extends (some fields) (.map entries) (.map (entries ++ added)) := by
  have hmap := Extends.map (fun e => e.2) (fun e he => .same (h e he)) supplied
  rwa [Entries.map_eq_self fun _ _ => rfl] at hmap

/-- Entries that have no gaps, with each value extended by what is declared for it. -/
lemma Extends.of_gaps_eq_nil {fields : Fields} {entries : Entries} (h : fields.gaps entries = [])
    (new : Value × Value → Value)
    (kept : ∀ e ∈ entries, Extends (fields.subFields e.1) e.2 (new e)) :
    Extends (some fields) (.map entries) (.map (entries.map fun e => (e.1, new e))) := by
  rw [← List.append_nil (entries.map _)]
  exact .map new kept (by rw [h]; exact .nil)

/-- Entries that have no gaps, with nothing that is extended. -/
lemma Extends.of_nothing {fields : Fields} {entries : Entries} (hgaps : fields.gaps entries = [])
    (h : ∀ e ∈ entries, fields.subFields e.1 = none ∨ e.2.isMap = false) :
    Extends (some fields) (.map entries) (.map entries) := by
  have hstay : Extends (some fields) (.map entries) (.map (entries ++ [])) :=
    .supplied h (by rw [hgaps]; exact .nil)
  rwa [List.append_nil] at hstay

/-! ## One field -/

section Single

variable {name : Value} {d : Descriptor} {entries : Entries}

lemma gaps_of_held {value : Value} (hget : Entries.get? name entries = some value) :
    Fields.gaps [(name, d)] entries = [] := by
  simp [Fields.gaps, Entries.has, hget]

lemma subFields_of_not_same {e : Value × Value} (h : name.same e.1 = false) :
    Fields.subFields [(name, d)] e.1 = none := by
  rw [Fields.subFields_cons_of_not_same h]
  rfl

lemma get?_eq_of_mem (hname : name.canBeKey = true) (hkeys : ProperKeys entries.keys)
    {e : Value × Value} (he : e ∈ entries) (hsame : name.same e.1 = true) :
    Entries.get? name entries = some e.2 := by
  rw [Value.same_symm hname (hkeys.canBeKey _ (List.mem_map_of_mem he))] at hsame
  exact Entries.get?_of_mem hkeys hname he hsame

lemma subFields_of_absent (hname : name.canBeKey = true) (hkeys : ProperKeys entries.keys)
    (hget : Entries.get? name entries = none) {e : Value × Value} (he : e ∈ entries) :
    Fields.subFields [(name, d)] e.1 = none := by
  refine subFields_of_not_same (Bool.eq_false_iff.2 fun hsame => ?_)
  rw [get?_eq_of_mem hname hkeys he hsame] at hget
  cases hget

lemma Extends.of_held (hname : name.canBeKey = true) (hkeys : ProperKeys entries.keys)
    {value : Value} (hget : Entries.get? name entries = some value)
    (hleaf : d.nested = none ∨ value.isMap = false) :
    Extends (some [(name, d)]) (.map entries) (.map entries) := by
  refine .of_nothing (gaps_of_held hget) fun e he => ?_
  cases hsame : name.same e.1 with
  | false => exact .inl (subFields_of_not_same hsame)
  | true =>
    have hvalue : value = e.2 :=
      Option.some.inj (hget.symm.trans (get?_eq_of_mem hname hkeys he hsame))
    rw [Fields.subFields_cons_of_same hsame, ← hvalue]
    exact hleaf

lemma Extends.of_undefaulted (hname : name.canBeKey = true) (hkeys : ProperKeys entries.keys)
    (hget : Entries.get? name entries = none) (hdefault : d.default = none) :
    Extends (some [(name, d)]) (.map entries) (.map entries) := by
  have hgaps : Fields.gaps [(name, d)] entries = [] := by simp [Fields.gaps, hdefault]
  exact .of_nothing hgaps fun e he => .inl (subFields_of_absent hname hkeys hget he)

lemma Extends.of_supplied (hname : name.canBeKey = true) (hkeys : ProperKeys entries.keys)
    (hget : Entries.get? name entries = none) {value : Value} (hvalue : Supplies d value) :
    Extends (some [(name, d)]) (.map entries) (.map (Entries.put name value entries)) := by
  rw [Entries.put_of_absent (Entries.get?_eq_none_iff.1 hget)]
  refine .supplied (fun e he => .inl (subFields_of_absent hname hkeys hget he)) ?_
  obtain ⟨default, _, hdefault, -⟩ := id hvalue
  have hgaps : Fields.gaps [(name, d)] entries = [(name, d)] := by
    simp [Fields.gaps, Entries.has, hget, hdefault]
  rw [hgaps]
  exact .cons ⟨rfl, hvalue⟩ .nil

lemma Extends.of_entered (hname : name.canBeKey = true) (hkeys : ProperKeys entries.keys)
    {value new : Value} (hget : Entries.get? name entries = some value)
    (hbelow : Extends d.nested value new) :
    Extends (some [(name, d)]) (.map entries) (.map (Entries.put name new entries)) := by
  rw [Entries.put_of_present hkeys hname (by rw [hget]; exact Option.some_ne_none _)]
  refine .of_gaps_eq_nil (gaps_of_held hget) _ fun e he => ?_
  rw [← Value.same_symm hname (hkeys.canBeKey _ (List.mem_map_of_mem he))]
  cases hsame : name.same e.1 with
  | false =>
    rw [subFields_of_not_same hsame, if_neg Bool.false_ne_true]
    exact .same (.inl rfl)
  | true =>
    have hvalue : value = e.2 :=
      Option.some.inj (hget.symm.trans (get?_eq_of_mem hname hkeys he hsame))
    rw [Fields.subFields_cons_of_same hsame, if_pos rfl, ← hvalue]
    exact hbelow

end Single

/-! ## All fields -/

/-- Mappings under the names of some fields are proper. -/
def HoldsProper (fields : Fields) (entries : Entries) : Prop :=
  ∀ f ∈ fields, ∀ v, Entries.get? f.1 entries = some v → v.Proper

lemma HoldsProper.of_proper {fields : Fields} {entries : Entries} (h : (Value.map entries).Proper) :
    HoldsProper fields entries :=
  fun _ _ _ hget => h.get? hget

lemma HoldsProper.tail {f : Value × Descriptor} {fields : Fields} {entries : Entries}
    (h : HoldsProper (f :: fields) entries) : HoldsProper fields entries :=
  fun g hg => h g (List.mem_cons_of_mem _ hg)

lemma HoldsProper.put {name value : Value} {d : Descriptor} {fields : Fields} {entries : Entries}
    (h : HoldsProper ((name, d) :: fields) entries)
    (hnames : ProperKeys (Fields.names ((name, d) :: fields))) (hkeys : ProperKeys entries.keys) :
    HoldsProper fields (Entries.put name value entries) := by
  obtain ⟨hname, hne, hrest⟩ := Entries.properKeys_cons.1 hnames
  intro f hf v hget
  have hmem : f.1 ∈ Fields.names fields := List.mem_map_of_mem hf
  rw [Entries.get?_put_of_not_same hkeys hname (hrest.canBeKey _ hmem) (hne _ hmem)] at hget
  exact h.tail f hf v hget

/-- What filling in makes of a mapping extends it. -/
lemma Filled.extends {fields : Fields} {entries after : Entries} (h : Filled fields entries after)
    (hfields : fields.Proper) (hkeys : ProperKeys entries.keys)
    (hheld : HoldsProper fields entries) :
    Extends (some fields) (.map entries) (.map after) := by
  induction h with
  | nil => exact .of_nothing rfl fun _ _ => .inl rfl
  | held hget hleaf _ ih =>
    obtain ⟨hname, hnames, -, hrest⟩ := hfields.uncons
    exact (Extends.of_held hname hkeys hget hleaf).cons hnames hkeys (ih hrest hkeys hheld.tail)
  | undefaulted hget hdefault _ ih =>
    obtain ⟨hname, hnames, -, hrest⟩ := hfields.uncons
    exact (Extends.of_undefaulted hname hkeys hget hdefault).cons hnames hkeys
      (ih hrest hkeys hheld.tail)
  | supplied hget hvalue _ ih =>
    obtain ⟨hname, hnames, -, hrest⟩ := hfields.uncons
    exact (Extends.of_supplied hname hkeys hget hvalue).cons hnames hkeys
      (ih hrest (Entries.properKeys_put hkeys hname) (hheld.put hnames hkeys))
  | @entered name d _ sub _ inner filled _ hget hnested _ _ ihBelow ih =>
    obtain ⟨hname, hnames, hd, hrest⟩ := hfields.uncons
    have hinner : (Value.map inner).Proper := hheld _ List.mem_cons_self _ hget
    have hbelow : Extends d.nested (.map inner) (.map filled) :=
      hnested ▸ ihBelow (hd.fields hnested) (Value.proper_map_iff.1 hinner).1 (.of_proper hinner)
    exact (Extends.of_entered hname hkeys hget hbelow).cons hnames hkeys
      (ih hrest (Entries.properKeys_put hkeys hname) (hheld.put hnames hkeys))

/-- Filling in defaults, unless it fails, only extends a mapping. -/
theorem extends_fillFields {fields : Fields} (hfields : fields.Proper) {entries : Entries}
    (hentries : (Value.map entries).Proper) (draws : Draws)
    (h : (fillFields fields (.map entries) draws).fault = none) :
    Extends (some fields) (.map entries) (fillFields fields (.map entries) draws).document := by
  obtain ⟨after, hafter, hfilled⟩ := filled_fillFields h
  rw [hafter]
  exact hfilled.extends hfields (Value.proper_map_iff.1 hentries).1 (.of_proper hentries)

/-- Fields with defaults at two depths, one of them a type. -/
def profileFields : Fields :=
  [(.text "name", ⟨.text, some (.text "new"), none⟩),
    (.text "profile", ⟨.structured, none, some [(.text "level", ⟨.integer, some (.int 1), none⟩),
      (.text "ok", ⟨.boolean, some (.bool false), none⟩)]⟩),
    (.text "tags", ⟨.structured, some (.type .list), none⟩)]

/-- A document that holds two names without a value, and one that is not declared. -/
def profileDocument : Entries :=
  [(.text "extra", .map [(.text "level", .int 3)]),
    (.text "profile", .map [(.text "level", .null)]), (.text "name", .null)]

lemma profileFields_proper : profileFields.Proper := by
  refine ⟨⟨by decide, by decide⟩, ?_⟩
  simp only [profileFields, List.forall_mem_cons]
  refine ⟨.plain _ _, .nested ⟨by decide, by decide⟩ ?_, .plain _ _, by simp⟩
  simp only [List.forall_mem_cons]
  exact ⟨.plain _ _, .plain _ _, by simp⟩

lemma profileDocument_proper : (Value.map profileDocument).Proper := by
  refine .map ⟨by decide, by decide⟩ ?_
  simp only [profileDocument, List.forall_mem_cons]
  refine ⟨.map ⟨by decide, by decide⟩ ?_, .map ⟨by decide, by decide⟩ ?_, .leaf rfl, by simp⟩
  all_goals
    simp only [List.forall_mem_cons]
    exact ⟨.leaf rfl, by simp⟩

theorem extends_fillFields_profileDocument :
    Extends (some profileFields) (.map profileDocument)
      (.map [(.text "extra", .map [(.text "level", .int 3)]),
        (.text "profile", .map [(.text "level", .null), (.text "ok", .bool false)]),
        (.text "name", .null), (.text "tags", .list [])]) :=
  extends_fillFields profileFields_proper profileDocument_proper noDraws rfl

end Codec
end DocTable
