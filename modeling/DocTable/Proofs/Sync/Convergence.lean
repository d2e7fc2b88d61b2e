/-
# Synchronizing again

A table that has been synchronized needs the changes that could not be made, and no others. This is
shown for stores that keep the columns of the table and change them as their statements say. Field
by field the changes that a run makes settle what they were planned for, and a plan made afterwards
is made of what is left.
-/
import DocTable.Proofs.Sync.Accounting
import DocTable.Proofs.Sync.Columns
import Mathlib.Data.List.Basic

namespace DocTable

/-- How the stores of a type keep the table of a synchronizer with its declared fields. -/
structure Keeper (σ : Type) [Store σ] (t : Synchronizer)
    (declared : List (String × Descriptor)) where
  /-- The columns of the table, if there is one. -/
  columns? : σ → Option (List Column)
  /-- The type of the identity column of a new table. -/
  identityType : String
  /-- The question for the table is answered truthfully. -/
  tableExists_eq : ∀ s, (Store.tableExists t.table s).1 = .ok (columns? s).isSome
  /-- The question for the columns is answered truthfully. -/
  describeColumns_eq : ∀ {s columns}, columns? s = some columns →
    (Store.describeColumns t.table s).1 = .ok columns
  /-- The question for the table changes nothing. -/
  columns?_tableExists : ∀ s, columns? (Store.tableExists t.table s).2 = columns? s
  /-- The question for the columns changes nothing. -/
  columns?_describeColumns : ∀ s, columns? (Store.describeColumns t.table s).2 = columns? s
  /-- A statement that fails changes nothing. -/
  failed : ∀ {s s' statement fault}, Store.execute statement s = (.error fault, s') →
    columns? s' = columns? s
  /-- A new table has the identity column and those of the fields. -/
  created : ∀ {s s' answer}, columns? s = none →
    Store.execute (.plain (t.dialect.createTable t.table
      ((ownColumns declared).map t.dialect.definitionOf))) s = (.ok answer, s') →
    columns? s' =
      some (⟨identityField, identityType⟩ :: (ownColumns declared).map t.dialect.columnOf)
  /-- A column that is added comes last. -/
  added : ∀ {s s' columns f answer}, f ∈ declared → columns? s = some columns →
    Store.execute (.plain (Dialect.addColumn t.table f.1 (t.dialect.storageOf f.2))) s =
      (.ok answer, s') →
    columns? s' = some (columns ++ [t.dialect.columnOf f])
  /-- Every column of a name in any letter case is modified. -/
  modified : ∀ {s s' columns f text answer}, f ∈ declared → columns? s = some columns →
    t.dialect.modifyColumn? t.table f.1 (t.dialect.storageOf f.2) = some text →
    Store.execute (.plain text) s = (.ok answer, s') →
    columns? s' = some (columns.map (retyped t.dialect f))

/-! ## The changes of a run that were not made -/

namespace Synchronizer

variable {σ : Type} [Store σ]

/-- The changes that a table needs. -/
def changes (t : Synchronizer) (store : σ) : Except Fault (List Change) :=
  (t.plan store).1.map Prod.snd

/-- Of distinct changes those have failed that were not applied. -/
lemma exists_applied (t : Synchronizer) {changes : List Change} (hdistinct : changes.Nodup)
    (report : Report) (s : Surroundings σ) :
    ∃ applied : List Change,
      (t.applyChanges changes report s).1.applied = report.applied ++ applied ∧
      applied ⊆ changes ∧
      (t.applyChanges changes report s).1.failed.map Prod.fst =
        report.failed.map Prod.fst ++ changes.filter (· ∉ applied) := by
  induction changes generalizing report s with
  | nil => exact ⟨[], by simp [applyChanges]⟩
  | cons c rest ih =>
    obtain ⟨hc, hrest⟩ := List.nodup_cons.mp hdistinct
    rcases happly : t.applyChange c s with ⟨_ | failure, s'⟩
    · rw [applyChanges_cons_applied happly]
      obtain ⟨applied, happlied, hsubset, hfailed⟩ :=
        ih hrest { report with applied := report.applied ++ [c] } s'
      have hfilter : (c :: rest).filter (· ∉ c :: applied) = rest.filter (· ∉ applied) := by
        rw [List.filter_cons_of_neg (by simp)]
        refine List.filter_congr fun c' hc' => ?_
        have hne : c' ≠ c := fun heq => hc (heq ▸ hc')
        simp [hne]
      refine ⟨c :: applied, ?_, List.cons_subset_cons c hsubset, ?_⟩
      · rw [happlied]
        simp
      · rw [hfailed, hfilter]
    · rw [applyChanges_cons_failed happly]
      obtain ⟨applied, happlied, hsubset, hfailed⟩ :=
        ih hrest { report with failed := report.failed ++ [(c, failure)] } s'
      have hkept : c ∉ applied := fun hmem => hc (hsubset hmem)
      refine ⟨applied, happlied, List.subset_cons_of_subset c hsubset, ?_⟩
      rw [hfailed, List.filter_cons_of_pos (by simpa using hkept)]
      simp

end Synchronizer

/-! ## A run on a table that exists -/

namespace Keeper

variable {σ : Type} [Store σ] {t : Synchronizer} {declared : List (String × Descriptor)}
  (k : Keeper σ t declared) {s : Surroundings σ} {columns : List Column}

/-- Applying the change that a field needs either fails and leaves the columns as they are, or
adjusts them to the field. -/
lemma applyChange_needed {f : String × Descriptor} {c : Change} (hf : f ∈ declared)
    (hcolumns : k.columns? s.store = some columns)
    (hneeded : needed? t.dialect t.table columns f = some c) :
    (∃ failure s', t.applyChange c s = (some failure, s') ∧
      k.columns? s'.store = some columns) ∨
    ∃ s' after, t.applyChange c s = (none, s') ∧ k.columns? s'.store = some after ∧
      Adjusts t.dialect f columns after := by
  rcases t.applyChange_cases c s with ⟨-, failure, s', happly, hstore⟩ | ⟨text, htext, hrun⟩
  · exact .inl ⟨failure, s', happly, by rw [hstore, hcolumns]⟩
  rcases hrun with ⟨fault, failure, s', happly, hanswer⟩ | ⟨answer, s', happly, hanswer⟩
  · exact .inl ⟨failure, s', happly, (k.failed hanswer).trans hcolumns⟩
  · obtain ⟨-, ⟨hnone, rfl⟩ | ⟨column, hfound, hincompatible, rfl⟩⟩ := needed?_eq_some hneeded
    · obtain rfl := Option.some.inj htext
      exact .inr ⟨s', _, happly, k.added hf hcolumns hanswer, .addition hnone⟩
    · exact .inr ⟨s', _, happly, k.modified hf hcolumns htext hanswer,
        .widening hfound hincompatible⟩

/-- A run of the changes that fields need leaves the outcome in which the changes that failed are
still needed. -/
lemma exists_outcome {fields : List (String × Descriptor)} (hfields : fields ⊆ declared)
    (hnames : (fields.map fun f => Text.lower f.1).Nodup)
    (hcolumns : k.columns? s.store = some columns) (report : Report) :
    ∃ after failed,
      k.columns? (t.applyChanges (fields.filterMap (needed? t.dialect t.table columns))
        report s).2.store = some after ∧
      (t.applyChanges (fields.filterMap (needed? t.dialect t.table columns))
        report s).1.failed.map Prod.fst = report.failed.map Prod.fst ++ failed ∧
      Outcome t.dialect t.table fields columns after failed := by
  induction fields generalizing columns report s with
  | nil => exact ⟨columns, [], hcolumns, by simp [Synchronizer.applyChanges], .nil columns⟩
  | cons f rest ih =>
    obtain ⟨hf, hrest⟩ := List.nodup_cons.mp hnames
    obtain ⟨hmem, hsubset⟩ := List.cons_subset.mp hfields
    cases hneeded : needed? t.dialect t.table columns f with
    | none =>
      rw [List.filterMap_cons, hneeded]
      obtain ⟨after, failed, hafter, hfailed, houtcome⟩ := ih hsubset hrest hcolumns report
      exact ⟨after, failed, hafter, hfailed, houtcome.cons_settled hf hneeded⟩
    | some c =>
      rw [List.filterMap_cons, hneeded]
      rcases k.applyChange_needed hmem hcolumns hneeded with
        ⟨failure, s', happly, hkept⟩ | ⟨s', adjusted, happly, hadjusted, hadjusts⟩
      · rw [Synchronizer.applyChanges_cons_failed happly]
        obtain ⟨after, failed, hafter, hfailed, houtcome⟩ := ih hsubset hrest hkept
          { report with failed := report.failed ++ [(c, failure)] }
        refine ⟨after, c :: failed, hafter, ?_, houtcome.cons_failed hf hneeded⟩
        rw [hfailed]
        simp
      · -- the columns of the other fields are the same, so that they need the same changes
        have hothers : rest.filterMap (needed? t.dialect t.table columns) =
            rest.filterMap (needed? t.dialect t.table adjusted) := by
          refine List.filterMap_congr fun g hg => (needed?_congr ?_).symm
          have hother : Text.lower g.1 ≠ Text.lower f.1 := fun heq =>
            hf (List.mem_map.mpr ⟨g, hg, heq⟩)
          exact hadjusts.findColumn?_eq hother
        rw [Synchronizer.applyChanges_cons_applied happly, hothers]
        obtain ⟨after, failed, hafter, hfailed, houtcome⟩ := ih hsubset hrest hadjusted
          { report with applied := report.applied ++ [c] }
        exact ⟨after, failed, hafter, hfailed, .cons_adjusted hadjusts houtcome hf⟩

/-! ## Plans before and after -/

lemma plan_absent (hfields : t.fields = .named declared) {store : σ}
    (h : k.columns? store = none) :
    ∃ store', t.plan store = (.ok (false, [creation t.dialect t.table declared]), store') ∧
      k.columns? store' = none := by
  have hexists := k.tableExists_eq store
  have hkept := k.columns?_tableExists store
  rw [h] at hexists hkept
  rcases hanswer : Store.tableExists t.table store with ⟨answer, store'⟩
  rw [hanswer] at hexists hkept
  obtain rfl : answer = .ok false := hexists
  refine ⟨store', ?_, hkept⟩
  rw [Synchronizer.plan, hanswer, hfields, planCreate_named]
  rfl

lemma plan_present (hfields : t.fields = .named declared) {store : σ}
    (h : k.columns? store = some columns) :
    ∃ store', t.plan store =
        (.ok (true, declared.filterMap (needed? t.dialect t.table columns)), store') ∧
      k.columns? store' = some columns := by
  have hexists := k.tableExists_eq store
  have hkept := k.columns?_tableExists store
  rw [h] at hexists hkept
  rcases hanswer : Store.tableExists t.table store with ⟨answer, store'⟩
  rw [hanswer] at hexists hkept
  obtain rfl : answer = .ok true := hexists
  have hdescribed := k.describeColumns_eq hkept
  have hkept' := k.columns?_describeColumns store'
  rcases hanswer' : Store.describeColumns t.table store' with ⟨answer', store''⟩
  rw [hanswer'] at hdescribed hkept'
  obtain rfl : answer' = .ok columns := hdescribed
  refine ⟨store'', ?_, hkept'.trans hkept⟩
  simp only [Synchronizer.plan, hanswer, hanswer', hfields, planAlter_named]
  rfl

lemma changes_absent (hfields : t.fields = .named declared) {store : σ}
    (h : k.columns? store = none) :
    t.changes store = .ok [creation t.dialect t.table declared] := by
  obtain ⟨store', hplan, -⟩ := k.plan_absent hfields h
  rw [Synchronizer.changes, hplan]
  rfl

lemma changes_present (hfields : t.fields = .named declared) {store : σ}
    (h : k.columns? store = some columns) :
    t.changes store = .ok (declared.filterMap (needed? t.dialect t.table columns)) := by
  obtain ⟨store', hplan, -⟩ := k.plan_present hfields h
  rw [Synchronizer.changes, hplan]
  rfl

/-! ## The two kinds of run -/

/-- Where there is no table, its creation is applied or fails. -/
lemma run_absent (hfields : t.fields = .named declared) (h : k.columns? s.store = none) :
    ((t.run s).1.applied = [] ∧
      (t.run s).1.failed.map Prod.fst = [creation t.dialect t.table declared] ∧
      k.columns? (t.run s).2.store = none) ∨
    ((t.run s).1.applied = [creation t.dialect t.table declared] ∧
      (t.run s).1.failed.map Prod.fst = [] ∧
      k.columns? (t.run s).2.store = some (⟨identityField, k.identityType⟩ ::
        (ownColumns declared).map t.dialect.columnOf)) := by
  obtain ⟨store, hplan, habsent⟩ := k.plan_absent hfields h
  obtain ⟨s', rfl, hrun⟩ := Synchronizer.run_of_plan hplan
  rw [hrun]
  rcases t.applyChange_cases (creation t.dialect t.table declared) s' with
    ⟨hnone, -⟩ | ⟨text, htext, hcreated⟩
  · cases hnone
  obtain rfl := Option.some.inj htext
  rcases hcreated with ⟨fault, failure, s'', happly, hanswer⟩ | ⟨answer, s'', happly, hanswer⟩
  · rw [Synchronizer.applyChanges_cons_failed happly]
    exact .inl ⟨rfl, rfl, (k.failed hanswer).trans habsent⟩
  · rw [Synchronizer.applyChanges_cons_applied happly]
    exact .inr ⟨rfl, rfl, k.created habsent hanswer⟩

/-- Where there is a table, it ends in the outcome of the changes that its fields needed. -/
lemma run_present (hfields : t.fields = .named declared)
    (hnames : (declared.map fun f => Text.lower f.1).Nodup)
    (h : k.columns? s.store = some columns) :
    ∃ after, k.columns? (t.run s).2.store = some after ∧
      (t.run s).1.failed.map Prod.fst =
        (declared.filterMap (needed? t.dialect t.table columns)).filter
          (· ∉ (t.run s).1.applied) ∧
      Outcome t.dialect t.table declared columns after ((t.run s).1.failed.map Prod.fst) := by
  obtain ⟨store, hplan, hcolumns⟩ := k.plan_present hfields h
  obtain ⟨s', rfl, hrun⟩ := Synchronizer.run_of_plan hplan
  obtain ⟨after, failed, hafter, hfailed, houtcome⟩ := k.exists_outcome
    (List.Subset.refl declared) hnames hcolumns (.start t.table true)
  obtain ⟨applied, happlied, -, hothers⟩ :=
    t.exists_applied (nodup_needed hnames) (.start t.table true) s'
  rw [← hrun] at hafter hfailed happlied hothers
  refine ⟨after, hafter, ?_, ?_⟩
  · have hstart : (t.run s).1.applied = applied := happlied
    rw [hothers, hstart]
    rfl
  · have hstart : (t.run s).1.failed.map Prod.fst = failed := hfailed
    rw [hstart]
    exact houtcome

end Keeper

/-! ## Convergence -/

namespace Synchronizer

/-- A plan that is made after a run has the changes of the plan before it that were not applied, the
same ones in the same order, and these are the ones that the report has as failed. So nothing is
left to do after a run in which nothing failed. A table whose columns satisfy all fields needs no
change, and no column of a table is lost or changes its type unless this did not satisfy a field of
its name. -/
theorem changes_run {σ : Type} [Store σ] {t : Synchronizer}
    {declared : List (String × Descriptor)} (k : Keeper σ t declared)
    (hfields : t.fields = .named declared)
    (hnames : (declared.map fun f => Text.lower f.1).Nodup) (s : Surroundings σ) :
    ∃ changes, t.changes s.store = .ok changes ∧
      t.changes (t.run s).2.store = .ok (changes.filter (· ∉ (t.run s).1.applied)) ∧
      (t.run s).1.failed.map Prod.fst = changes.filter (· ∉ (t.run s).1.applied) ∧
      ((t.run s).1.isOk = true → t.changes (t.run s).2.store = .ok []) ∧
      ∀ columns, k.columns? s.store = some columns → Distinct columns →
        ((∀ f ∈ declared, f.1 ≠ identityField → ∃ c ∈ columns,
            Text.lower c.name = Text.lower f.1 ∧
            Column.isCompatible c.nativeType (t.dialect.storageOf f.2) = true) →
          changes = []) ∧
        ∃ after, k.columns? (t.run s).2.store = some after ∧ Distinct after ∧
          Keeps t.dialect declared columns after := by
  have hok : ∀ {changes}, (t.run s).1.failed.map Prod.fst = changes →
      t.changes (t.run s).2.store = .ok changes → (t.run s).1.isOk = true →
      t.changes (t.run s).2.store = .ok [] := by
    rintro changes rfl hagain hisOk
    have hnothing : (t.run s).1.failed = [] := by
      simpa using (Bool.and_eq_true_iff.mp hisOk).2
    rw [hagain, hnothing]
    rfl
  cases hcolumns : k.columns? s.store with
  | none =>
    refine ⟨_, k.changes_absent hfields hcolumns, ?_⟩
    rcases k.run_absent hfields hcolumns with
      ⟨happlied, hfailed, hafter⟩ | ⟨happlied, hfailed, hafter⟩
    · have hagain := k.changes_absent hfields hafter
      rw [happlied]
      exact ⟨by simpa using hagain, by simpa using hfailed, hok hfailed hagain,
        fun _ hsome => by cases hsome⟩
    · have hagain := k.changes_present hfields hafter
      rw [needed?_created hnames] at hagain
      rw [happlied]
      exact ⟨by simpa using hagain, by simpa using hfailed, hok hfailed hagain,
        fun _ hsome => by cases hsome⟩
  | some columns =>
    obtain ⟨after, hafter, hfailed, houtcome⟩ := k.run_present hfields hnames hcolumns
    have hagain := k.changes_present hfields hafter
    rw [houtcome.residue] at hagain
    refine ⟨_, k.changes_present hfields hcolumns, hfailed ▸ hagain, hfailed, hok rfl hagain, ?_⟩
    intro columns' hsame hdistinct
    obtain rfl := Option.some.inj hsame
    refine ⟨?_, after, hafter, houtcome.distinct hdistinct, houtcome.keeps hdistinct⟩
    intro hcompatible
    rw [List.filterMap_eq_nil_iff]
    intro f hf
    by_cases hidentity : f.1 = identityField
    · rw [needed?, if_pos hidentity]
    · obtain ⟨c, hc, hname, htype⟩ := hcompatible f hf hidentity
      exact needed?_eq_none_of_isCompatible (hname ▸ hdistinct.findColumn?_eq_some hc) htype

end Synchronizer

/-! ## A store that keeps one table -/

/-- The synchronizer of the table of users. -/
def userTable : Synchronizer := ⟨.standard, "users", .named userFields⟩

/-- A store of the table of users alone, which knows beforehand which statements it will reject. -/
structure LoneTable where
  /-- The columns of the table, if there is one. -/
  columns? : Option (List Column)
  /-- Whether the next statements succeed; once this is used up they all do. -/
  verdicts : List Bool

namespace LoneTable

/-- The table that a statement leaves. -/
def effect (text : String) : Option (List Column) → Option (List Column)
  | none =>
    if text = Dialect.standard.createTable "users" (userFields.map Dialect.standard.definitionOf)
    then some (⟨identityField, "INT"⟩ :: userFields.map Dialect.standard.columnOf)
    else none
  | some columns =>
    let adds (f : String × Descriptor) : Bool :=
      Dialect.addColumn "users" f.1 (Dialect.standard.storageOf f.2) == text
    let modifies (f : String × Descriptor) : Bool :=
      Dialect.standard.modifyColumn? "users" f.1 (Dialect.standard.storageOf f.2) == some text
    match userFields.find? adds, userFields.find? modifies with
    | some f, _ => some (columns ++ [Dialect.standard.columnOf f])
    | none, some f => some (columns.map (retyped .standard f))
    | none, none => some columns

instance : Store LoneTable where
  execute statement s :=
    if s.verdicts.headD true then
      (.ok (.written none 0), ⟨effect statement.text s.columns?, s.verdicts.tail⟩)
    else (.error (.failure (.rejected "rejected" .null [])), ⟨s.columns?, s.verdicts.tail⟩)
  tableExists _ s := (.ok s.columns?.isSome, s)
  describeColumns _ s := (.ok (s.columns?.getD []), s)

lemma execute_eq_ok {statement : Statement} {s s' : LoneTable} {answer : Answer}
    (h : Store.execute statement s = (.ok answer, s')) :
    s'.columns? = effect statement.text s.columns? := by
  simp only [Store.execute] at h
  split_ifs at h
  · cases h
    rfl
  · cases h

lemma execute_eq_error {statement : Statement} {s s' : LoneTable} {fault : Fault}
    (h : Store.execute statement s = (.error fault, s')) : s'.columns? = s.columns? := by
  simp only [Store.execute] at h
  split_ifs at h
  · cases h
  · cases h
    rfl

/-- The store keeps the table of users. -/
def keeper : Keeper LoneTable userTable userFields where
  columns? := LoneTable.columns?
  identityType := "INT"
  tableExists_eq := fun _ => rfl
  describeColumns_eq := by
    intro s columns h
    simp only [Store.describeColumns, h, Option.getD_some]
  columns?_tableExists := fun _ => rfl
  columns?_describeColumns := fun _ => rfl
  failed := execute_eq_error
  created := by
    intro s s' answer hcolumns hanswer
    rw [execute_eq_ok hanswer, hcolumns]
    rfl
  added := by
    intro s s' columns f answer hf hcolumns hanswer
    rw [execute_eq_ok hanswer, hcolumns]
    simp only [userFields, List.mem_cons, List.not_mem_nil, or_false] at hf
    rcases hf with rfl | rfl | rfl <;> rfl
  modified := by
    intro s s' columns f text answer hf hcolumns htext hanswer
    rw [execute_eq_ok hanswer, hcolumns]
    obtain rfl := Option.some.inj htext
    simp only [userFields, List.mem_cons, List.not_mem_nil, or_false] at hf
    rcases hf with rfl | rfl | rfl <;> rfl

end LoneTable

namespace Synchronizer

/-- A table of users without two of its columns, and with one of another type. -/
def partialTable (verdicts : List Bool) : Surroundings LoneTable :=
  .start ⟨some [⟨"id", "INT"⟩, ⟨"AGE", "VARCHAR(10)"⟩], verdicts⟩

/-- What the second of three statements was to change is planned again, and nothing is once all of
them succeed. -/
theorem changes_run_userTable :
    userTable.changes (userTable.run (partialTable [true, false])).2.store =
      .ok [widening .standard "users" "age" "VARCHAR(10)" "INT"] ∧
    userTable.changes (userTable.run (partialTable [])).2.store = .ok [] := by
  have hnames : (userFields.map fun f => Text.lower f.1).Nodup := by decide +kernel
  obtain ⟨changes, hchanges, hagain, -⟩ :=
    changes_run LoneTable.keeper rfl hnames (partialTable [true, false])
  have hplanned : changes = [addition "users" "name" "VARCHAR(255)",
      widening .standard "users" "age" "VARCHAR(10)" "INT",
      addition "users" "active" "BOOLEAN"] := Except.ok.inj (hchanges.symm.trans rfl)
  have happlied : (userTable.run (partialTable [true, false])).1.applied =
      [addition "users" "name" "VARCHAR(255)", addition "users" "active" "BOOLEAN"] := rfl
  obtain ⟨-, -, -, -, hdone, -⟩ := changes_run LoneTable.keeper rfl hnames (partialTable [])
  refine ⟨?_, hdone rfl⟩
  rw [hagain, hplanned, happlied]
  rfl

end Synchronizer
end DocTable
