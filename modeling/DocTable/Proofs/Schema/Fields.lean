/-
# Proper names of declared fields

The names of the declared fields, and of the sub-fields at every depth, are keys of the mappings of
the definition. So they are as different from each other as keys are.
-/
import DocTable.Proofs.Value.Entries
import DocTable.Schema.Descriptor

namespace DocTable

open Entries (ProperKeys)

/-- A value in which the keys are proper in every mapping that is reached through mappings. -/
inductive Value.Proper : Value → Prop
  | map {entries : Entries} (keys : ProperKeys entries.keys)
      (values : ∀ e ∈ entries, Value.Proper e.2) : Value.Proper (.map entries)
  | leaf {v : Value} (h : v.isMap = false) : Value.Proper v

/-- A descriptor in which the names of the sub-fields are proper at every depth. -/
inductive Descriptor.Proper : Descriptor → Prop
  | plain (kind : FieldKind) (default : Option Value) : Descriptor.Proper ⟨kind, default, none⟩
  | nested {kind : FieldKind} {default : Option Value} {fields : Fields}
      (names : ProperKeys fields.names) (descriptors : ∀ f ∈ fields, Descriptor.Proper f.2) :
      Descriptor.Proper ⟨kind, default, some fields⟩

/-- Fields with proper names at every depth. -/
structure Fields.Proper (fields : Fields) : Prop where
  names : ProperKeys fields.names
  descriptors : ∀ f ∈ fields, f.2.Proper

lemma Value.proper_map_iff {entries : Entries} :
    (Value.map entries).Proper ↔ ProperKeys entries.keys ∧ ∀ e ∈ entries, e.2.Proper := by
  constructor
  · rintro (⟨keys, values⟩ | h)
    · exact ⟨keys, values⟩
    · cases h
  · exact fun h => .map h.1 h.2

lemma Value.Proper.get? {entries : Entries} (h : (Value.map entries).Proper) {name value : Value}
    (hget : Entries.get? name entries = some value) : value.Proper := by
  obtain ⟨e, he, -, rfl⟩ := Entries.exists_mem_of_get? hget
  exact (Value.proper_map_iff.1 h).2 e he

lemma Value.Proper.put {entries : Entries} (h : (Value.map entries).Proper) {name value : Value}
    (hname : name.canBeKey = true) (hvalue : value.Proper) :
    (Value.map (Entries.put name value entries)).Proper := by
  obtain ⟨hkeys, hvalues⟩ := Value.proper_map_iff.1 h
  refine .map (Entries.properKeys_put hkeys hname) fun e he => ?_
  rcases Entries.mem_put he with he | ⟨heq, -⟩
  · exact hvalues e he
  · exact heq ▸ hvalue

lemma Value.Proper.at? {v w : Value} (hv : v.Proper) {path : List Value}
    (h : v.at? path = some w) : w.Proper := by
  induction path generalizing v with
  | nil => exact Option.some.inj h ▸ hv
  | cons name below ih =>
    cases v with
    | map entries =>
      obtain ⟨inner, hinner, hw⟩ := Option.bind_eq_some_iff.1 h
      exact ih (hv.get? hinner) hw
    | _ => cases h

namespace Descriptor

lemma fieldsOfEntries_eq (entries : Entries) :
    fieldsOfEntries entries =
      (entries.filter fun e => !e.1.same (.text identityField)).map fun e =>
        (e.1, ofDefinition e.2) := by
  induction entries with
  | nil => rfl
  | cons e es ih =>
    obtain ⟨name, definition⟩ := e
    rw [fieldsOfEntries, ih]
    cases h : name.same (.text identityField) <;> simp [h]

/-- The sub-fields that a `type` lists are those of the mapping that stands there. -/
lemma fieldsOfType_eq {entries inner : Entries}
    (h : Entries.get? (.text "type") entries = some (.map inner)) :
    fieldsOfType entries = fieldsOfEntries inner := by
  induction entries with
  | nil => cases h
  | cons e es ih =>
    obtain ⟨key, value⟩ := e
    rw [Entries.get?] at h
    split_ifs at h with hkey
    · cases h
      rw [fieldsOfType, if_pos hkey]
    · unfold fieldsOfType
      rw [if_neg hkey, ih h]

lemma ofDefinition_of_typeMap {entries inner : Entries}
    (htype : Entries.get? (.text "type") entries = some (.map inner)) :
    ofDefinition (.map entries) = ⟨.structured, defaultIn entries,
      if (fieldsOfEntries inner).isEmpty then none else some (fieldsOfEntries inner)⟩ := by
  rw [ofDefinition, htype, fieldsOfType_eq htype]

lemma ofDefinition_of_typeMarker {entries : Entries} {marker : Value}
    (htype : Entries.get? (.text "type") entries = some marker) (hmap : marker.isMap = false) :
    ofDefinition (.map entries) = plain (.ofMarker marker) (defaultIn entries) := by
  rw [ofDefinition, htype]
  cases marker with
  | map => cases hmap
  | _ => rfl

lemma ofDefinition_of_no_type {entries : Entries}
    (htype : Entries.get? (.text "type") entries = none) :
    ofDefinition (.map entries) =
      if entries.isEmpty then plain .structured none
      else if Entries.has (.text "default") entries && entries.length == 1 then
        plain .structured (defaultIn entries)
      else ⟨.structured, none, some (fieldsOfEntries entries)⟩ := by
  rw [ofDefinition, htype]

lemma proper_fieldsOfEntries {entries : Entries} (hkeys : ProperKeys entries.keys)
    (h : ∀ e ∈ entries, (ofDefinition e.2).Proper) : Fields.Proper (fieldsOfEntries entries) := by
  rw [fieldsOfEntries_eq]
  refine ⟨?_, ?_⟩
  · have hnames : Fields.names ((entries.filter fun e => !e.1.same (.text identityField)).map
        fun e => (e.1, ofDefinition e.2)) =
        (entries.filter fun e => !e.1.same (.text identityField)).map Prod.fst := by
      rw [Fields.names, List.map_map]
      rfl
    rw [hnames]
    exact hkeys.sublist (List.filter_sublist.map Prod.fst)
  · rintro f hf
    obtain ⟨e, he, rfl⟩ := List.mem_map.1 hf
    exact h e (List.mem_filter.1 he).1

lemma Proper.of_fields {kind : FieldKind} {default : Option Value} {fields : Fields}
    (h : fields.Proper) : Descriptor.Proper ⟨kind, default, some fields⟩ :=
  .nested h.names h.descriptors

lemma Proper.fields {d : Descriptor} (h : d.Proper) {fields : Fields}
    (hnested : d.nested = some fields) : fields.Proper := by
  cases h with
  | plain => cases hnested
  | nested names descriptors =>
    cases hnested
    exact ⟨names, descriptors⟩

/-- The descriptor of a mapping is proper if its own fields and those listed by its `type` are. -/
lemma proper_ofDefinition_map {entries : Entries} (hown : Fields.Proper (fieldsOfEntries entries))
    (htype : ∀ inner, Entries.get? (.text "type") entries = some (.map inner) →
      Fields.Proper (fieldsOfEntries inner)) : (ofDefinition (.map entries)).Proper := by
  rw [ofDefinition]
  split
  · rename_i inner hget
    rw [fieldsOfType_eq hget]
    dsimp only
    split_ifs
    · exact .plain _ _
    · exact .of_fields (htype inner hget)
  · exact .plain _ _
  · split_ifs
    · exact .plain _ _
    · exact .plain _ _
    · exact .of_fields hown

/-- The descriptor of a proper definition is proper, and so are the fields it defines. -/
lemma proper_ofDefinition {v : Value} (hv : v.Proper) :
    (ofDefinition v).Proper ∧
      ∀ entries, v = .map entries → Fields.Proper (fieldsOfEntries entries) := by
  induction hv with
  | map hkeys _ ih =>
    have hown := proper_fieldsOfEntries hkeys fun e he => (ih e he).1
    refine ⟨proper_ofDefinition_map hown fun inner hget => ?_, ?_⟩
    · -- what stands under `type` is the value of an entry, for which this is known
      obtain ⟨e, he, -, heq⟩ := Entries.exists_mem_of_get? hget
      exact (ih e he).2 inner heq
    · rintro _ ⟨⟩
      exact hown
  | @leaf v h =>
    refine ⟨?_, ?_⟩
    · cases v <;> first | exact .plain _ _ | cases h
    · rintro entries rfl
      cases h

end Descriptor

namespace Fields

lemma Proper.uncons {f : Value × Descriptor} {fields : Fields} (h : Proper (f :: fields)) :
    f.1.canBeKey = true ∧ ProperKeys (Fields.names (f :: fields)) ∧ f.2.Proper ∧ fields.Proper := by
  obtain ⟨hnames, hdescriptors⟩ := h
  obtain ⟨hname, -, hrest⟩ := Entries.properKeys_cons.1 hnames
  obtain ⟨hfirst, hdescriptors⟩ := List.forall_mem_cons.1 hdescriptors
  exact ⟨hname, hnames, hfirst, hrest, hdescriptors⟩

end Fields

/-! ## Sub-fields -/

/-- A descriptor that has sub-fields only where it declares a structure, at every depth. -/
inductive Descriptor.Normal : Descriptor → Prop
  | plain (kind : FieldKind) (default : Option Value) : Descriptor.Normal ⟨kind, default, none⟩
  | nested {default : Option Value} {fields : Fields}
      (descriptors : ∀ f ∈ fields, Descriptor.Normal f.2) :
      Descriptor.Normal ⟨.structured, default, some fields⟩

namespace Descriptor

mutual

/-- Whatever stands in a definition, its descriptor is normal. -/
lemma normal_ofDefinition : ∀ definition : Value, (ofDefinition definition).Normal
  | .map entries => by
    rw [ofDefinition]
    split
    · dsimp only
      split_ifs
      · exact .plain _ _
      · exact .nested (normal_fieldsOfType entries)
    · exact .plain _ _
    · split_ifs
      · exact .plain _ _
      · exact .plain _ _
      · exact .nested (normal_fieldsOfEntries entries)
  | .null | .bool _ | .int _ | .float _ | .decimal _ | .text _ | .bytes _ | .timestamp _ | .date _
  | .list _ | .tuple _ | .set _ | .pattern _ | .producer _ _ _ | .type _ | .kind _ | .operator _
  | .outcome _ _ => .plain _ _

lemma normal_fieldsOfEntries : ∀ entries : Entries, ∀ f ∈ fieldsOfEntries entries, f.2.Normal
  | [], f, hf => by cases hf
  | (name, definition) :: rest, f, hf => by
    rw [fieldsOfEntries] at hf
    split_ifs at hf
    · exact normal_fieldsOfEntries rest f hf
    · rcases List.mem_cons.1 hf with rfl | hf
      · exact normal_ofDefinition definition
      · exact normal_fieldsOfEntries rest f hf

lemma normal_fieldsOfType : ∀ entries : Entries, ∀ f ∈ fieldsOfType entries, f.2.Normal
  | [], f, hf => by cases hf
  | (key, value) :: rest, f, hf => by
    unfold fieldsOfType at hf
    split_ifs at hf
    · cases value with
      | map entries => exact normal_fieldsOfEntries entries f hf
      | _ => cases hf
    · exact normal_fieldsOfType rest f hf

end

end Descriptor

lemma Fields.normal_ofDefinition {definition : Value} {fields : Fields}
    (h : ofDefinition definition = .ok fields) : ∀ f ∈ fields, f.2.Normal := by
  simp only [ofDefinition, bind_eq_ok_iff, pure_eq_ok, Except.ok.injEq] at h
  obtain ⟨entries, -, rfl⟩ := h
  exact Descriptor.normal_fieldsOfEntries entries

/-! ## Conditions on defaults -/

/-- A descriptor whose default, and those of its sub-fields at every depth, satisfy a condition. -/
inductive Descriptor.DefaultsSatisfy (p : Value → Prop) : Descriptor → Prop
  | mk {d : Descriptor} (own : ∀ v, d.default = some v → p v)
      (nested : ∀ sub, d.nested = some sub → ∀ f ∈ sub, Descriptor.DefaultsSatisfy p f.2) :
      Descriptor.DefaultsSatisfy p d

/-- Fields whose defaults satisfy a condition at every depth. -/
def Fields.DefaultsSatisfy (p : Value → Prop) (fields : Fields) : Prop :=
  ∀ f ∈ fields, f.2.DefaultsSatisfy p

section DefaultsSatisfy

variable {p q : Value → Prop}

lemma Descriptor.DefaultsSatisfy.own {d : Descriptor} (h : d.DefaultsSatisfy p) {v : Value}
    (hdefault : d.default = some v) : p v := by
  cases h with
  | mk own _ => exact own v hdefault

lemma Descriptor.DefaultsSatisfy.fields {d : Descriptor} (h : d.DefaultsSatisfy p) {sub : Fields}
    (hnested : d.nested = some sub) : sub.DefaultsSatisfy p := by
  cases h with
  | mk _ nested => exact nested sub hnested

lemma Descriptor.DefaultsSatisfy.imp {d : Descriptor} (h : d.DefaultsSatisfy p)
    (hpq : ∀ v, p v → q v) : d.DefaultsSatisfy q := by
  induction h with
  | mk own _ ih => exact .mk (fun v hdefault => hpq v (own v hdefault)) ih

lemma Fields.DefaultsSatisfy.imp {fields : Fields} (h : fields.DefaultsSatisfy p)
    (hpq : ∀ v, p v → q v) : fields.DefaultsSatisfy q :=
  fun f hf => (h f hf).imp hpq

lemma Fields.DefaultsSatisfy.head {f : Value × Descriptor} {fields : Fields}
    (h : Fields.DefaultsSatisfy p (f :: fields)) : f.2.DefaultsSatisfy p :=
  h f List.mem_cons_self

lemma Fields.DefaultsSatisfy.tail {f : Value × Descriptor} {fields : Fields}
    (h : Fields.DefaultsSatisfy p (f :: fields)) : fields.DefaultsSatisfy p :=
  fun g hg => h g (List.mem_cons_of_mem _ hg)

end DefaultsSatisfy

namespace Fields

/-! ## Looking up -/

lemma get?_eq_none_iff {name : Value} {fields : Fields} :
    fields.get? name = none ↔ ∀ f ∈ fields, f.1.same name = false := by
  induction fields with
  | nil => simp [get?]
  | cons f fs ih =>
    cases h : f.1.same name <;> simp [get?, h, ih]

lemma exists_mem_of_get? {name : Value} {fields : Fields} {d : Descriptor}
    (h : fields.get? name = some d) : ∃ f ∈ fields, f.1.same name = true ∧ f.2 = d := by
  induction fields with
  | nil => cases h
  | cons f fs ih =>
    rw [get?] at h
    split_ifs at h with hname
    · exact ⟨f, List.mem_cons_self, hname, Option.some.inj h⟩
    · obtain ⟨g, hg, hsame, heq⟩ := ih h
      exact ⟨g, List.mem_cons_of_mem _ hg, hsame, heq⟩

lemma get?_cons_of_same {name key : Value} {d : Descriptor} {fields : Fields}
    (h : name.same key = true) : get? key ((name, d) :: fields) = some d := by
  rw [get?, if_pos h]

lemma get?_cons_of_not_same {name key : Value} {d : Descriptor} {fields : Fields}
    (h : name.same key = false) : get? key ((name, d) :: fields) = fields.get? key := by
  rw [get?, h, if_neg Bool.false_ne_true]

/-- A name that is declared first is not declared again. -/
lemma get?_eq_none_of_same {name key : Value} {d : Descriptor} {fields : Fields}
    (hnames : ProperKeys (names ((name, d) :: fields))) (hkey : key.canBeKey = true)
    (hsame : name.same key = true) : fields.get? key = none := by
  obtain ⟨hname, hne, hrest⟩ := Entries.properKeys_cons.1 hnames
  refine get?_eq_none_iff.2 fun f hf => ?_
  have hmem : f.1 ∈ names fields := List.mem_map_of_mem hf
  have hf1 := hrest.canBeKey _ hmem
  refine Entries.same_eq_false_of_same hf1 hkey hname ?_ ?_
  · rw [Value.same_symm hf1 hname, hne _ hmem]
  · rwa [Value.same_symm hkey hname]

/-- What is found under a name is the descriptor of the field whose name is the same. -/
lemma get?_of_mem {name : Value} {fields : Fields} (hnames : ProperKeys fields.names)
    (hname : name.canBeKey = true) {f : Value × Descriptor} (hf : f ∈ fields)
    (hsame : f.1.same name = true) : fields.get? name = some f.2 := by
  induction fields with
  | nil => cases hf
  | cons first fields ih =>
    cases hfirst : first.1.same name with
    | false =>
      rw [get?_cons_of_not_same hfirst]
      rcases List.mem_cons.1 hf with rfl | hf
      · rw [hsame] at hfirst
        cases hfirst
      · exact ih (Entries.properKeys_cons.1 hnames).2.2 hf
    | true =>
      rw [get?_cons_of_same hfirst]
      rcases List.mem_cons.1 hf with rfl | hf
      · rfl
      · -- the name that stands first is not declared again
        have habsent := get?_eq_none_iff.1 (get?_eq_none_of_same hnames hname hfirst) f hf
        rw [hsame] at habsent
        cases habsent

/-- Under names that are the same the same descriptor is found. -/
lemma get?_of_same {fields : Fields} (hnames : ProperKeys fields.names) {a b : Value}
    (ha : a.canBeKey = true) (hb : b.canBeKey = true) (hab : a.same b = true) :
    fields.get? a = fields.get? b := by
  have hfield : ∀ f ∈ fields, f.1.canBeKey = true := fun f hf =>
    hnames.canBeKey _ (List.mem_map_of_mem hf)
  cases hget : fields.get? a with
  | none =>
    refine (get?_eq_none_iff.2 fun f hf => ?_).symm
    have hother := get?_eq_none_iff.1 hget f hf
    exact Entries.same_eq_false_of_same (hfield f hf) hb ha hother (Value.same_symm ha hb ▸ hab)
  | some d =>
    obtain ⟨f, hf, hsame, rfl⟩ := exists_mem_of_get? hget
    exact (get?_of_mem hnames hb hf (Value.same_trans (hfield f hf) ha hb hsame hab)).symm

/-! ## Fields of a definition -/

/-- The fields of a proper definition are proper. -/
lemma proper_ofDefinition {definition : Value} (hd : definition.Proper) {fields : Fields}
    (h : ofDefinition definition = .ok fields) : fields.Proper := by
  simp only [ofDefinition, bind_eq_ok_iff, pure_eq_ok, Except.ok.injEq] at h
  obtain ⟨entries, hentries, rfl⟩ := h
  rw [Value.orElse] at hentries
  split_ifs at hentries with htruthy
  · exact (Descriptor.proper_ofDefinition hd).2 entries (Value.eq_map_of_entries hentries)
  · -- a definition that is empty in any way declares nothing
    cases hentries
    have hkeys : ProperKeys (names (Descriptor.fieldsOfEntries [])) :=
      ⟨by simp [names, Descriptor.fieldsOfEntries], by simp [names, Descriptor.fieldsOfEntries]⟩
    exact ⟨hkeys, by simp [Descriptor.fieldsOfEntries]⟩

end Fields
end DocTable
