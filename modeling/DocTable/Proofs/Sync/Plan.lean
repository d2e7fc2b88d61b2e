/-
# Plans for named fields

A plan can only be made for fields whose names are texts. A new table gets one column for each of
them that is not the identity field; for a table that exists the plan is made field by field, and
each field needs a change that its own column decides, or none.
-/
import DocTable.Proofs.Steps
import DocTable.Proofs.Value.Key
import DocTable.Sync.Run

namespace DocTable

/-! ## Named fields -/

/-- Declared fields, given by names that are texts. -/
def Fields.named (declared : List (String × Descriptor)) : Fields :=
  declared.map fun f => (.text f.1, f.2)

/-- The type under which a dialect declares a field. -/
def Dialect.storageOf (d : Dialect) (f : Descriptor) : String :=
  Column.storageType d.varcharLength f.kind

/-- Three fields of users, on which plans and runs are shown. -/
def userFields : List (String × Descriptor) :=
  [("name", .plain .text none), ("age", .plain .integer none), ("active", .plain .boolean none)]

@[simp] lemma Fields.named_cons (f : String × Descriptor) (declared : List (String × Descriptor)) :
    Fields.named (f :: declared) = (.text f.1, f.2) :: Fields.named declared := rfl

lemma eq_text_of_identifier {name : Value} {column : String} (h : name.identifier = .ok column) :
    ∃ s, name = .text s := by
  cases name with
  | text s => exact ⟨s, rfl⟩
  | _ => cases h

lemma eq_of_isIdentity {name : Value} (h : isIdentity name = true) :
    name = .text identityField :=
  Value.eq_text_of_same h

@[simp] lemma isIdentity_text (name : String) :
    isIdentity (.text name) = decide (name = identityField) := by
  rw [Bool.eq_iff_iff, isIdentity, Value.same_text_iff, decide_eq_true_eq, Value.text.injEq]

/-! ## The change that a field needs -/

section Needs

variable (d : Dialect) (table : String) (columns : List Column)

/-- The change that a field needs whose column, if there is one, has been found. -/
def changeOf? (name : String) (expected : String) : Option Column → Option Change
  | none => some (addition table name expected)
  | some column =>
    if Column.isCompatible column.nativeType expected then none
    else some (widening d table name column.nativeType expected)

/-- The change that a declared field needs: none if it is the identity field. -/
def needed? (f : String × Descriptor) : Option Change :=
  if f.1 = identityField then none
  else changeOf? d table f.1 (d.storageOf f.2) (findColumn? columns (Text.lower f.1))

lemma planField_text (name : String) (f : Descriptor) :
    planField d table columns (.text name) f =
      .ok (changeOf? d table name (d.storageOf f) (findColumn? columns (Text.lower name))) := by
  have hcolumn : columnOf? columns (.text name) =
      .ok (findColumn? columns (Text.lower name)) := rfl
  have hname : (Value.text name).identifier = .ok name := rfl
  rw [planField, hcolumn, ok_bind, hname]
  cases findColumn? columns (Text.lower name) with
  | none => rfl
  | some column =>
    have hstorage : Column.storageType d.varcharLength f.kind = d.storageOf f := rfl
    simp only [hstorage, changeOf?]
    by_cases h : Column.isCompatible column.nativeType (d.storageOf f) = true
    · rw [if_pos h, if_pos h]
      rfl
    · rw [if_neg h, if_neg h]
      rfl

/-- A plan for named fields has the changes that they need, in order of declaration. -/
lemma planAlter_named (declared : List (String × Descriptor)) :
    planAlter d table columns (.named declared) =
      .ok (declared.filterMap (needed? d table columns)) := by
  induction declared with
  | nil => rfl
  | cons f declared ih =>
    rw [Fields.named_cons, planAlter, isIdentity_text, planField_text, ih, List.filterMap_cons,
      needed?]
    by_cases hidentity : f.1 = identityField
    · simp [hidentity]
    · simp only [hidentity, decide_false, Bool.false_eq_true, if_false, ok_bind, pure_eq_ok]
      cases changeOf? d table f.1 (d.storageOf f.2) (findColumn? columns (Text.lower f.1)) <;> rfl

variable {d table columns}

/-- A change is only ever planned for a field whose name is a text. -/
lemma exists_text_of_planField {name : Value} {f : Descriptor} {change : Option Change}
    (h : planField d table columns name f = .ok change) : ∃ s, name = .text s := by
  simp only [planField, columnOf?, bind_eq_ok_iff] at h
  obtain ⟨found, ⟨lowered, hlowered, hfound⟩, h⟩ := h
  -- what is no text has no column, so that it would have to be added under its name
  cases name with
  | text s => exact ⟨s, rfl⟩
  | bytes b =>
    cases hlowered
    cases hfound
    simp only [bind_eq_ok_iff] at h
    obtain ⟨column, hcolumn, -⟩ := h
    exact eq_text_of_identifier hcolumn
  | type marker => cases marker <;> cases hlowered
  | _ => cases hlowered

lemma exists_named_of_planAlter {fields : Fields} {changes : List Change}
    (h : planAlter d table columns fields = .ok changes) :
    ∃ declared, fields = .named declared := by
  induction fields generalizing changes with
  | nil => exact ⟨[], rfl⟩
  | cons field fields ih =>
    obtain ⟨name, f⟩ := field
    rw [planAlter] at h
    split_ifs at h with hidentity
    · obtain ⟨declared, rfl⟩ := ih h
      exact ⟨(identityField, f) :: declared, by rw [eq_of_isIdentity hidentity]; rfl⟩
    · simp only [bind_eq_ok_iff] at h
      obtain ⟨change, hchange, rest, hrest, -⟩ := h
      obtain ⟨s, rfl⟩ := exists_text_of_planField hchange
      obtain ⟨declared, rfl⟩ := ih hrest
      exact ⟨(s, f) :: declared, rfl⟩

/-- Fields can be planned for exactly if all of their names are texts, and the plan is then made of
the changes that they need. -/
lemma planAlter_eq_ok_iff {fields : Fields} {changes : List Change} :
    planAlter d table columns fields = .ok changes ↔
      ∃ declared, fields = .named declared ∧
        changes = declared.filterMap (needed? d table columns) := by
  constructor
  · intro h
    obtain ⟨declared, rfl⟩ := exists_named_of_planAlter h
    rw [planAlter_named] at h
    exact ⟨declared, rfl, (Except.ok.inj h).symm⟩
  · rintro ⟨declared, rfl, rfl⟩
    exact planAlter_named d table columns declared

/-- What a change that a field needs is: the addition of its column, or the widening of the column
that is found for it. -/
lemma needed?_eq_some {f : String × Descriptor} {c : Change}
    (h : needed? d table columns f = some c) :
    f.1 ≠ identityField ∧
      ((findColumn? columns (Text.lower f.1) = none ∧
          c = addition table f.1 (d.storageOf f.2)) ∨
        ∃ column, findColumn? columns (Text.lower f.1) = some column ∧
          Column.isCompatible column.nativeType (d.storageOf f.2) = false ∧
          c = widening d table f.1 column.nativeType (d.storageOf f.2)) := by
  rw [needed?] at h
  split_ifs at h with hidentity
  refine ⟨hidentity, ?_⟩
  cases hfound : findColumn? columns (Text.lower f.1) with
  | none =>
    rw [hfound] at h
    exact .inl ⟨rfl, (Option.some.inj h).symm⟩
  | some column =>
    rw [hfound, changeOf?] at h
    split_ifs at h with hcompatible
    exact .inr ⟨column, rfl, by simpa using hcompatible, (Option.some.inj h).symm⟩

/-- A change that a field needs is for a column of its name. -/
lemma column_of_needed? {f : String × Descriptor} {c : Change}
    (h : needed? d table columns f = some c) : c.column = some f.1 := by
  obtain ⟨-, ⟨-, rfl⟩ | ⟨column, -, -, rfl⟩⟩ := needed?_eq_some h <;> rfl

/-- A field needs a change unless it is the identity field or a column is found that satisfies its
type. -/
lemma exists_needed?_iff {f : String × Descriptor} :
    (∃ c, needed? d table columns f = some c) ↔
      f.1 ≠ identityField ∧ ∀ column, findColumn? columns (Text.lower f.1) = some column →
        Column.isCompatible column.nativeType (d.storageOf f.2) = false := by
  constructor
  · rintro ⟨c, hneeded⟩
    obtain ⟨hother, ⟨hnone, -⟩ | ⟨column, hfound, hincompatible, -⟩⟩ := needed?_eq_some hneeded
    · exact ⟨hother, fun column hsome => by rw [hnone] at hsome; cases hsome⟩
    · refine ⟨hother, fun column' hsome => ?_⟩
      obtain rfl := Option.some.inj (hfound.symm.trans hsome)
      exact hincompatible
  · rintro ⟨hother, hincompatible⟩
    rw [needed?, if_neg hother]
    cases hfound : findColumn? columns (Text.lower f.1) with
    | none => exact ⟨_, rfl⟩
    | some column =>
      rw [changeOf?, if_neg (by simp [hincompatible column hfound])]
      exact ⟨_, rfl⟩

end Needs

/-! ## The change that makes a table -/

/-- The declaration of the column of a field. -/
def Dialect.definitionOf (d : Dialect) (f : String × Descriptor) : String :=
  Dialect.columnDefinition f.1 (d.storageOf f.2)

/-- The fields that get a column of their own: all but the identity field. -/
def ownColumns (declared : List (String × Descriptor)) : List (String × Descriptor) :=
  declared.filter fun f => f.1 ≠ identityField

/-- The change that makes the table of declared fields. -/
def creation (d : Dialect) (table : String) (declared : List (String × Descriptor)) : Change :=
  { kind := .tableCreated
    table := table
    column := none
    statement := some (d.createTable table ((ownColumns declared).map d.definitionOf))
    oldType := none
    newType := none }

section Creation

variable (d : Dialect)

lemma columnDefinitions_named (declared : List (String × Descriptor)) :
    columnDefinitions d (.named declared) = .ok ((ownColumns declared).map d.definitionOf) := by
  induction declared with
  | nil => rfl
  | cons f declared ih =>
    have hname : (Value.text f.1).identifier = .ok f.1 := rfl
    rw [Fields.named_cons, columnDefinitions, isIdentity_text, hname, ih]
    by_cases hidentity : f.1 = identityField
    · simp [hidentity, ownColumns]
    · simp [hidentity, ownColumns, Dialect.definitionOf, Dialect.storageOf]

lemma planCreate_named (table : String) (declared : List (String × Descriptor)) :
    planCreate d table (.named declared) = .ok [creation d table declared] := by
  rw [planCreate, columnDefinitions_named]
  rfl

variable {d}

/-- Columns are only declared for fields whose names are texts. -/
lemma exists_named_of_columnDefinitions {fields : Fields} {definitions : List String}
    (h : columnDefinitions d fields = .ok definitions) : ∃ declared, fields = .named declared := by
  induction fields generalizing definitions with
  | nil => exact ⟨[], rfl⟩
  | cons field fields ih =>
    obtain ⟨name, f⟩ := field
    rw [columnDefinitions] at h
    split_ifs at h with hidentity
    · obtain ⟨declared, rfl⟩ := ih h
      exact ⟨(identityField, f) :: declared, by rw [eq_of_isIdentity hidentity]; rfl⟩
    · simp only [bind_eq_ok_iff] at h
      obtain ⟨column, hcolumn, rest, hrest, -⟩ := h
      obtain ⟨s, rfl⟩ := eq_text_of_identifier hcolumn
      obtain ⟨declared, rfl⟩ := ih hrest
      exact ⟨(s, f) :: declared, rfl⟩

lemma planCreate_eq_ok_iff {table : String} {fields : Fields} {changes : List Change} :
    planCreate d table fields = .ok changes ↔
      ∃ declared, fields = .named declared ∧ changes = [creation d table declared] := by
  constructor
  · intro h
    have hdefinitions := h
    simp only [planCreate, bind_eq_ok_iff] at hdefinitions
    obtain ⟨definitions, hdefinitions, -⟩ := hdefinitions
    obtain ⟨declared, rfl⟩ := exists_named_of_columnDefinitions hdefinitions
    rw [planCreate_named] at h
    exact ⟨declared, rfl, (Except.ok.inj h).symm⟩
  · rintro ⟨declared, rfl, rfl⟩
    exact planCreate_named d table declared

end Creation

/-! ## Plans against a store -/

section Stores

variable {σ : Type} [Store σ] {t : Synchronizer} {store after : σ} {existed : Bool}
  {changes : List Change}

/-- What a plan that could be made consists of: the creation of the table, or the changes that the
fields need in view of the columns that the store reports. -/
lemma Synchronizer.plan_eq_ok (h : t.plan store = (.ok (existed, changes), after)) :
    ∃ declared, t.fields = .named declared ∧
      (changes = [creation t.dialect t.table declared] ∨
        ∃ columns, changes = declared.filterMap (needed? t.dialect t.table columns)) := by
  rw [plan] at h
  split at h
  · cases h
  · obtain ⟨h, -⟩ := Prod.mk.inj h
    obtain ⟨made, hmade, hpair⟩ := map_eq_ok_iff.mp h
    cases hpair
    obtain ⟨declared, hfields, hchanges⟩ := planCreate_eq_ok_iff.mp hmade
    exact ⟨declared, hfields, .inl hchanges⟩
  · split at h
    · cases h
    · obtain ⟨h, -⟩ := Prod.mk.inj h
      obtain ⟨made, hmade, hpair⟩ := map_eq_ok_iff.mp h
      cases hpair
      obtain ⟨declared, hfields, hchanges⟩ := planAlter_eq_ok_iff.mp hmade
      exact ⟨declared, hfields, .inr ⟨_, hchanges⟩⟩

/-- What both questions to a store leave as it is, planning leaves as it is. -/
lemma Synchronizer.plan_keeps {α : Type} (t : Synchronizer) (f : σ → α)
    (htable : ∀ s, f (Store.tableExists t.table s).2 = f s)
    (hcolumns : ∀ s, f (Store.describeColumns t.table s).2 = f s) (s : σ) :
    f (t.plan s).2 = f s := by
  have hkept := htable s
  rw [plan]
  rcases hexists : Store.tableExists t.table s with ⟨_ | exists?, s'⟩
  all_goals rw [hexists] at hkept
  · exact hkept
  · cases exists? with
    | false => exact hkept
    | true =>
      have hkept' := hcolumns s'
      rcases hdescribed : Store.describeColumns t.table s' with ⟨_ | columns, s''⟩
      all_goals
        rw [hdescribed] at hkept'
        simp only [hdescribed]
        exact hkept'.trans hkept

end Stores

end DocTable
