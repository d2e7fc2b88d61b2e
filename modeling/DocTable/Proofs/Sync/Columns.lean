/-
# What changes make of columns

A change adds the column of a field or gives it the declared type. It settles what the field needed
and leaves what all other fields need as it was, since columns are found by their names in lower
case. A change that fails leaves the need of its field. Over a list of fields this adds up: what is
still needed in the end are the changes that failed.
-/
import DocTable.Proofs.Sync.Plan

namespace DocTable

/-! ## Types that satisfy themselves -/

namespace Column

lemma baseType_storageType_text (varcharLength : Int) :
    baseType (storageType varcharLength .text) = "VARCHAR" := by
  have hletters : (storageType varcharLength .text).toList =
      ['V', 'A', 'R', 'C', 'H', 'A', 'R', '('] ++ ((Int.repr varcharLength).toList ++ [')']) := by
    simp [storageType, String.toList_append]
  rw [baseType, hletters]
  rfl

/-- A column of the declared type satisfies it. -/
lemma isCompatible_storageType (varcharLength : Int) (kind : FieldKind) :
    isCompatible (storageType varcharLength kind) (storageType varcharLength kind) = true := by
  cases kind with
  | text =>
    rw [isCompatible, baseType_storageType_text]
    decide
  | integer => exact (by decide +kernel : isCompatible "INT" "INT" = true)
  | boolean => exact (by decide +kernel : isCompatible "BOOLEAN" "BOOLEAN" = true)
  | temporal => exact (by decide +kernel : isCompatible "DATETIME" "DATETIME" = true)
  | structured => exact (by decide +kernel : isCompatible "JSON" "JSON" = true)

end Column

/-! ## Finding a column -/

/-- The names of columns are distinct, whatever their letter case. -/
def Distinct (columns : List Column) : Prop :=
  (columns.map fun column => Text.lower column.name).Nodup

section Finding

variable {columns added : List Column} {column : Column} {lowerName : String}

lemma findColumn?_append :
    findColumn? (columns ++ added) lowerName =
      (findColumn? added lowerName).or (findColumn? columns lowerName) := by
  rw [findColumn?, List.reverse_append, List.find?_append]
  rfl

lemma findColumn?_eq_none_iff :
    findColumn? columns lowerName = none ↔ ∀ c ∈ columns, Text.lower c.name ≠ lowerName := by
  simp [findColumn?]

lemma mem_of_findColumn? (h : findColumn? columns lowerName = some column) :
    column ∈ columns ∧ Text.lower column.name = lowerName := by
  have hmem := List.mem_of_find?_eq_some h
  have hname := List.find?_some h
  exact ⟨List.mem_reverse.mp hmem, by simpa using hname⟩

lemma findColumn?_singleton_self :
    findColumn? [column] (Text.lower column.name) = some column := by
  simp [findColumn?]

lemma findColumn?_singleton_of_ne (h : Text.lower column.name ≠ lowerName) :
    findColumn? [column] lowerName = none := by
  simp [findColumn?, h]

/-- Among distinct columns each is found by its own name. -/
lemma Distinct.findColumn?_eq_some (h : Distinct columns) (hc : column ∈ columns) :
    findColumn? columns (Text.lower column.name) = some column := by
  induction columns with
  | nil => cases hc
  | cons c rest ih =>
    obtain ⟨hc', hrest⟩ := List.nodup_cons.mp h
    rw [← List.singleton_append, findColumn?_append]
    rcases List.mem_cons.mp hc with rfl | hmem
    · have hnone : findColumn? rest (Text.lower column.name) = none :=
        findColumn?_eq_none_iff.mpr fun other hother heq =>
          hc' (List.mem_map.mpr ⟨other, hother, heq⟩)
      rw [hnone, findColumn?_singleton_self]
      rfl
    · rw [ih hrest hmem]
      rfl

end Finding

/-! ## The changes of columns -/

section Adjusting

variable (d : Dialect) (table : String)

/-- The column of a field as it is declared. -/
def Dialect.columnOf (f : String × Descriptor) : Column := ⟨f.1, d.storageOf f.2⟩

/-- A column with the declared type of a field if it has the name of the field. -/
def retyped (f : String × Descriptor) (column : Column) : Column :=
  if Text.lower column.name = Text.lower f.1 then
    { column with nativeType := d.storageOf f.2 }
  else column

/-- What a field that needs a change makes of the columns: its column is added, or the one that is
found for it gets the declared type. -/
inductive Adjusts (f : String × Descriptor) (columns : List Column) : List Column → Prop
  | addition (h : findColumn? columns (Text.lower f.1) = none) :
    Adjusts f columns (columns ++ [d.columnOf f])
  | widening {column : Column} (h : findColumn? columns (Text.lower f.1) = some column)
    (hincompatible : Column.isCompatible column.nativeType (d.storageOf f.2) = false) :
    Adjusts f columns (columns.map (retyped d f))

/-- Every column is still there under its name, and its type has only changed if it did not satisfy
that of a field of this name. -/
def Keeps (fields : List (String × Descriptor)) (columns after : List Column) : Prop :=
  ∀ c ∈ columns, ∃ c' ∈ after, c'.name = c.name ∧
    (c'.nativeType = c.nativeType ∨ ∃ f ∈ fields, Text.lower f.1 = Text.lower c.name ∧
      Column.isCompatible c.nativeType (d.storageOf f.2) = false)

variable {d table} {f g : String × Descriptor} {fields : List (String × Descriptor)}
  {columns after last : List Column} {failed : List Change}

@[simp] lemma retyped_name (column : Column) : (retyped d f column).name = column.name := by
  rw [retyped]
  split_ifs <;> rfl

lemma findColumn?_map_retyped (lowerName : String) :
    findColumn? (columns.map (retyped d f)) lowerName =
      (findColumn? columns lowerName).map (retyped d f) := by
  have hname : ((fun c => Text.lower c.name == lowerName) ∘ retyped d f) =
      fun c : Column => Text.lower c.name == lowerName := by
    funext column
    simp only [Function.comp, retyped_name]
  rw [findColumn?, findColumn?, ← List.map_reverse, List.find?_map, hname]

/-- What a field needs depends on nothing but the column that is found for it. -/
lemma needed?_congr
    (h : findColumn? after (Text.lower f.1) = findColumn? columns (Text.lower f.1)) :
    needed? d table after f = needed? d table columns f := by
  rw [needed?, needed?, h]

/-- A field whose column satisfies its type needs no change. -/
lemma needed?_eq_none_of_isCompatible {column : Column}
    (h : findColumn? columns (Text.lower f.1) = some column)
    (hcompatible : Column.isCompatible column.nativeType (d.storageOf f.2) = true) :
    needed? d table columns f = none := by
  rw [needed?, h, changeOf?, if_pos hcompatible, ite_self]

namespace Adjusts

/-- The change of a field settles what it needed. -/
lemma needed?_eq_none (h : Adjusts d f columns after) : needed? d table after f = none := by
  have hself := Column.isCompatible_storageType d.varcharLength f.2.kind
  cases h with
  | addition =>
    have hfound : findColumn? (columns ++ [d.columnOf f]) (Text.lower f.1) =
        some (d.columnOf f) := by
      have hown : findColumn? [d.columnOf f] (Text.lower f.1) = some (d.columnOf f) :=
        findColumn?_singleton_self
      rw [findColumn?_append, hown]
      rfl
    exact needed?_eq_none_of_isCompatible hfound hself
  | @widening column hfound =>
    have hname := (mem_of_findColumn? hfound).2
    have hretyped : findColumn? (columns.map (retyped d f)) (Text.lower f.1) =
        some { column with nativeType := d.storageOf f.2 } := by
      rw [findColumn?_map_retyped, hfound, Option.map_some, retyped, if_pos hname]
    exact needed?_eq_none_of_isCompatible hretyped hself

/-- The change of a field leaves the columns of all other names as they are. -/
lemma findColumn?_eq (h : Adjusts d f columns after) {lowerName : String}
    (hother : lowerName ≠ Text.lower f.1) :
    findColumn? after lowerName = findColumn? columns lowerName := by
  cases h with
  | addition =>
    have hadded : findColumn? [d.columnOf f] lowerName = none :=
      findColumn?_singleton_of_ne (Ne.symm hother)
    rw [findColumn?_append, hadded]
    rfl
  | widening =>
    rw [findColumn?_map_retyped]
    cases hfound : findColumn? columns lowerName with
    | none => rfl
    | some column =>
      have hname := (mem_of_findColumn? hfound).2
      rw [Option.map_some, retyped, if_neg (hname ▸ hother)]

/-- Distinct columns stay distinct. -/
lemma distinct (h : Adjusts d f columns after) (hdistinct : Distinct columns) :
    Distinct after := by
  cases h with
  | addition hfound =>
    rw [Distinct, List.map_append, List.nodup_append]
    refine ⟨hdistinct, List.pairwise_singleton _ _, ?_⟩
    intro a ha b hb heq
    obtain ⟨c, hc, rfl⟩ := List.mem_map.mp ha
    obtain rfl := List.mem_singleton.mp hb
    exact findColumn?_eq_none_iff.mp hfound c hc heq
  | widening =>
    have hnames : ((columns.map (retyped d f)).map fun c => Text.lower c.name) =
        columns.map fun c => Text.lower c.name := by
      simp
    rw [Distinct, hnames]
    exact hdistinct

/-- Among distinct columns at most the one that was found has changed its type. -/
lemma keeps (h : Adjusts d f columns after) (hdistinct : Distinct columns) :
    Keeps d [f] columns after := by
  intro c hc
  cases h with
  | addition => exact ⟨c, List.mem_append_left _ hc, rfl, .inl rfl⟩
  | @widening column hfound hincompatible =>
    refine ⟨retyped d f c, List.mem_map_of_mem hc, retyped_name c, ?_⟩
    by_cases hname : Text.lower c.name = Text.lower f.1
    · have hfound' := hdistinct.findColumn?_eq_some hc
      rw [hname, hfound] at hfound'
      obtain rfl := Option.some.inj hfound'
      exact .inr ⟨f, List.mem_singleton_self f, hname.symm, hincompatible⟩
    · rw [retyped, if_neg hname]
      exact .inl rfl

end Adjusts

lemma Keeps.refl (fields : List (String × Descriptor)) (columns : List Column) :
    Keeps d fields columns columns :=
  fun c hc => ⟨c, hc, rfl, .inl rfl⟩

lemma Keeps.mono {more : List (String × Descriptor)} (h : Keeps d fields columns after)
    (hmore : fields ⊆ more) : Keeps d more columns after := by
  intro c hc
  obtain ⟨c', hc', hname, htype⟩ := h c hc
  exact ⟨c', hc', hname, htype.imp_right fun ⟨f, hf, hchanged⟩ => ⟨f, hmore hf, hchanged⟩⟩

lemma Keeps.trans (h : Keeps d fields columns after) (h' : Keeps d fields after last) :
    Keeps d fields columns last := by
  intro c hc
  obtain ⟨c', hc', hname, htype⟩ := h c hc
  obtain ⟨c'', hc'', hname', htype'⟩ := h' c' hc'
  refine ⟨c'', hc'', hname'.trans hname, ?_⟩
  -- a column that was changed before did not satisfy its field then
  rcases htype with htype | hchanged
  · rw [hname, htype] at htype'
    exact htype'
  · exact .inr hchanged

/-! ## The changes of a list of fields -/

/-- The changes that fields need are distinct, since each is for a column of its own. -/
lemma nodup_needed (hnames : (fields.map fun f => Text.lower f.1).Nodup) :
    (fields.filterMap (needed? d table columns)).Nodup := by
  refine List.Pairwise.filterMap _ ?_ (List.pairwise_map.mp hnames)
  rintro f g hne c hc c' hc' rfl
  have hsame := (column_of_needed? hc).symm.trans (column_of_needed? hc')
  exact hne (by rw [Option.some.inj hsame])

/-- A new table has the columns that its fields need. -/
lemma needed?_created (hnames : (fields.map fun f => Text.lower f.1).Nodup)
    (identityColumn : Column) :
    fields.filterMap (needed? d table (identityColumn :: (ownColumns fields).map d.columnOf)) =
      [] := by
  have hdistinct : Distinct ((ownColumns fields).map d.columnOf) := by
    have hsublist : ((ownColumns fields).map fun f => Text.lower f.1).Sublist
        (fields.map fun f => Text.lower f.1) := List.filter_sublist.map _
    rw [Distinct, List.map_map]
    exact hnames.sublist hsublist
  rw [List.filterMap_eq_nil_iff]
  intro f hf
  by_cases hidentity : f.1 = identityField
  · rw [needed?, if_pos hidentity]
  · have hown : d.columnOf f ∈ (ownColumns fields).map d.columnOf :=
      List.mem_map_of_mem (List.mem_filter.mpr ⟨hf, by simpa using hidentity⟩)
    have hfound := hdistinct.findColumn?_eq_some hown
    -- the identity column comes first, so that it gives way to a field of its name
    have hcreated : findColumn? (identityColumn :: (ownColumns fields).map d.columnOf)
        (Text.lower f.1) = some (d.columnOf f) := by
      rw [← List.singleton_append, findColumn?_append]
      exact congrArg (Option.or · _) hfound
    have hself := Column.isCompatible_storageType d.varcharLength f.2.kind
    exact needed?_eq_none_of_isCompatible hcreated hself

/-- What has become of columns when the changes that fields needed were made or failed. -/
structure Outcome (d : Dialect) (table : String) (fields : List (String × Descriptor))
    (columns after : List Column) (failed : List Change) : Prop where
  /-- What is still needed are the changes that failed. -/
  residue : fields.filterMap (needed? d table after) = failed
  /-- The columns of other names are as they were. -/
  frame : ∀ lowerName, lowerName ∉ fields.map (fun f => Text.lower f.1) →
    findColumn? after lowerName = findColumn? columns lowerName
  /-- Distinct columns stay distinct. -/
  distinct : Distinct columns → Distinct after
  /-- Distinct columns are kept. -/
  keeps : Distinct columns → Keeps d fields columns after

namespace Outcome

lemma nil (columns : List Column) : Outcome d table [] columns columns [] where
  residue := rfl
  frame := fun _ _ => rfl
  distinct := id
  keeps := fun _ => Keeps.refl [] columns

/-- A field that needs nothing comes on top of the others. -/
lemma cons_settled (h : Outcome d table fields columns after failed)
    (hf : Text.lower f.1 ∉ fields.map fun g => Text.lower g.1)
    (hneeded : needed? d table columns f = none) :
    Outcome d table (f :: fields) columns after failed where
  residue := by
    rw [List.filterMap_cons, needed?_congr (h.frame _ hf), hneeded]
    exact h.residue
  frame := fun _ hname => h.frame _ fun hmem => hname (List.mem_cons_of_mem _ hmem)
  distinct := h.distinct
  keeps := fun hdistinct => (h.keeps hdistinct).mono (List.subset_cons_self f fields)

/-- A field whose change has failed comes before the others. -/
lemma cons_failed {c : Change} (h : Outcome d table fields columns after failed)
    (hf : Text.lower f.1 ∉ fields.map fun g => Text.lower g.1)
    (hneeded : needed? d table columns f = some c) :
    Outcome d table (f :: fields) columns after (c :: failed) where
  residue := by
    rw [List.filterMap_cons, needed?_congr (h.frame _ hf), hneeded]
    exact congrArg _ h.residue
  frame := fun _ hname => h.frame _ fun hmem => hname (List.mem_cons_of_mem _ hmem)
  distinct := h.distinct
  keeps := fun hdistinct => (h.keeps hdistinct).mono (List.subset_cons_self f fields)

/-- A field whose change was made comes before the others. -/
lemma cons_adjusted (hadjusts : Adjusts d f columns after)
    (h : Outcome d table fields after last failed)
    (hf : Text.lower f.1 ∉ fields.map fun g => Text.lower g.1) :
    Outcome d table (f :: fields) columns last failed where
  residue := by
    rw [List.filterMap_cons, needed?_congr (h.frame _ hf), hadjusts.needed?_eq_none]
    exact h.residue
  frame := by
    intro lowerName hname
    have hother : lowerName ≠ Text.lower f.1 := fun heq => hname (heq ▸ List.mem_cons_self)
    have hrest : lowerName ∉ fields.map fun g => Text.lower g.1 :=
      fun hmem => hname (List.mem_cons_of_mem _ hmem)
    rw [h.frame _ hrest, hadjusts.findColumn?_eq hother]
  distinct := fun hdistinct => h.distinct (hadjusts.distinct hdistinct)
  keeps := by
    intro hdistinct
    have hfirst : Keeps d (f :: fields) columns after :=
      (hadjusts.keeps hdistinct).mono (by simp)
    have hrest : Keeps d (f :: fields) after last :=
      (h.keeps (hadjusts.distinct hdistinct)).mono (List.subset_cons_self f fields)
    exact hfirst.trans hrest

end Outcome
end Adjusting
end DocTable
