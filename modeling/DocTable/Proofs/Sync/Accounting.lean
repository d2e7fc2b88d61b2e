/-
# The account of a synchronization

A run executes what its plan shows, and its report has each change of the plan once: as applied or
as failed. This is followed through the run change by change. It holds for every store that keeps a
record of its statements and fails a fixed set of them, whatever it answers to questions.
-/
import DocTable.Cli.Run
import DocTable.Proofs.Sync.Plan
import DocTable.Store.Scripted

namespace DocTable

/-- How the stores of a type record the statements they are given, and which of them fail. -/
structure Recorder (σ : Type) [Store σ] where
  /-- The statements so far, failed ones included. -/
  executed : σ → List Statement
  /-- Whether a statement fails. -/
  fails : σ → Statement → Bool
  /-- A statement is answered unless it is one of those that fail. -/
  isOk_execute : ∀ statement s, (Store.execute statement s).1.isOk = !fails s statement
  /-- A statement is recorded, whether it fails or not. -/
  executed_execute : ∀ statement s,
    executed (Store.execute statement s).2 = executed s ++ [statement]
  /-- Which statements fail is decided beforehand. -/
  fails_execute : ∀ statement s, fails (Store.execute statement s).2 = fails s
  /-- A question for a table is no statement. -/
  executed_tableExists : ∀ table s, executed (Store.tableExists table s).2 = executed s
  /-- A question for a table changes nothing about the statements that fail. -/
  fails_tableExists : ∀ table s, fails (Store.tableExists table s).2 = fails s
  /-- A question for columns is no statement. -/
  executed_describeColumns : ∀ table s, executed (Store.describeColumns table s).2 = executed s
  /-- A question for columns changes nothing about the statements that fail. -/
  fails_describeColumns : ∀ table s, fails (Store.describeColumns table s).2 = fails s

/-! ## Scripted stores record their statements -/

namespace ScriptedStore

/-- An answer leaves the record and the statements that fail as they are. -/
lemma kept_answer (s : ScriptedStore) (text : String) :
    (s.answer text).2.executed = s.executed ∧ (s.answer text).2.fails = s.fails := by
  simp only [answer, takeRows, insertRow, takeCount]
  split_ifs
  · split <;> exact ⟨rfl, rfl⟩
  · split <;> exact ⟨rfl, rfl⟩
  · exact ⟨rfl, rfl⟩
  · split <;> exact ⟨rfl, rfl⟩

/-- The record of a scripted store. -/
def recorder : Recorder ScriptedStore where
  executed := ScriptedStore.executed
  fails := fails
  isOk_execute := by
    intro statement s
    have hrecord : (s.record statement).fails statement = s.fails statement := rfl
    simp only [Store.execute, execute, hrecord]
    cases s.fails statement <;> rfl
  executed_execute := by
    intro statement s
    simp only [Store.execute, execute]
    split_ifs
    · rfl
    · exact (kept_answer (s.record statement) statement.text).1
  fails_execute := by
    intro statement s
    simp only [Store.execute, execute]
    split_ifs
    · rfl
    · exact (kept_answer (s.record statement) statement.text).2
  executed_tableExists := fun _ _ => rfl
  fails_tableExists := fun _ _ => rfl
  executed_describeColumns := fun _ _ => rfl
  fails_describeColumns := fun _ _ => rfl

end ScriptedStore

/-! ## What is shown of a plan -/

namespace Cli

/-- Whether an entry of a plan that is shown is a remark instead of a statement. -/
def isRemark (entry : String) : Bool := "-- unsupported".toList.isPrefixOf entry.toList

lemma isRemark_unsupported (text : String) : isRemark ("-- unsupported: " ++ text) = true := by
  have hmark : "-- unsupported".toList <+: "-- unsupported: ".toList := by decide
  rw [isRemark, List.isPrefixOf_iff_prefix, String.toList_append]
  exact hmark.trans (List.prefix_append _ _)

lemma isRemark_eq_false {entry : String} (h : entry.toList.head? ≠ some '-') :
    isRemark entry = false := by
  rw [isRemark, ← Bool.not_eq_true, List.isPrefixOf_iff_prefix]
  rintro ⟨rest, hrest⟩
  exact h (by rw [← hrest]; rfl)

end Cli

lemma head?_toList_append {word : String} {first : Char} (h : word.toList.head? = some first)
    (rest : String) : (word ++ rest).toList.head? = some first := by
  rw [String.toList_append, List.head?_append, h]
  rfl

lemma head?_createTable (d : Dialect) (table : String) (definitions : List String) :
    (d.createTable table definitions).toList.head? = some 'C' := by
  have hword : "CREATE TABLE ".toList.head? = some 'C' := rfl
  have hopened := head?_toList_append (head?_toList_append hword (Dialect.quote table)) " ("
  exact head?_toList_append (head?_toList_append hopened _) _

lemma head?_alterTable (table action definition : String) :
    ("ALTER TABLE " ++ Dialect.quote table ++ action ++ definition).toList.head? = some 'A' := by
  have hword : "ALTER TABLE ".toList.head? = some 'A' := rfl
  exact head?_toList_append (head?_toList_append (head?_toList_append hword _) _) _

/-- The statement of a planned change starts with the word of what it does. -/
lemma head?_statement_eq {σ : Type} [Store σ] {t : Synchronizer} {store after : σ}
    {existed : Bool} {changes : List Change} (h : t.plan store = (.ok (existed, changes), after))
    {c : Change} (hc : c ∈ changes) {text : String} (htext : c.statement = some text) :
    text.toList.head? = some 'C' ∨ text.toList.head? = some 'A' := by
  obtain ⟨declared, -, hplanned⟩ := t.plan_eq_ok h
  rcases hplanned with rfl | ⟨columns, rfl⟩
  · rw [List.mem_singleton.mp hc] at htext
    obtain rfl := Option.some.inj htext
    exact .inl (head?_createTable _ _ _)
  · obtain ⟨f, -, hf⟩ := List.mem_filterMap.mp hc
    obtain ⟨-, ⟨-, rfl⟩ | ⟨column, -, -, rfl⟩⟩ := needed?_eq_some hf
    · obtain rfl := Option.some.inj htext
      exact .inr (head?_alterTable _ _ _)
    · simp only [widening, Dialect.modifyColumn?] at htext
      split at htext
      · cases htext
      · obtain rfl := Option.some.inj htext
        exact .inr (head?_alterTable _ _ _)

/-- It does not start with a dash. -/
lemma head?_statement {σ : Type} [Store σ] {t : Synchronizer} {store after : σ} {existed : Bool}
    {changes : List Change} (h : t.plan store = (.ok (existed, changes), after)) {c : Change}
    (hc : c ∈ changes) {text : String} (htext : c.statement = some text) :
    ∃ first, text.toList.head? = some first ∧ first ≠ '-' := by
  rcases head?_statement_eq h hc htext with hfirst | hfirst
  · exact ⟨'C', hfirst, by decide⟩
  · exact ⟨'A', hfirst, by decide⟩

namespace Cli

/-- Of a change that has a statement this is shown, and otherwise a remark. -/
lemma planEntry_cases {σ : Type} [Store σ] {t : Synchronizer} {store after : σ} {existed : Bool}
    {changes : List Change} (h : t.plan store = (.ok (existed, changes), after)) {c : Change}
    (hc : c ∈ changes) :
    (c.statement = none ∧ isRemark (planEntry c) = true) ∨
      (c.statement = some (planEntry c) ∧ isRemark (planEntry c) = false) := by
  cases hstatement : c.statement with
  | none =>
    have hentry : planEntry c = "-- unsupported: " ++ c.text := by rw [planEntry, hstatement]; rfl
    exact .inl ⟨rfl, by rw [hentry]; exact isRemark_unsupported c.text⟩
  | some text =>
    obtain ⟨first, hfirst, hdash⟩ := head?_statement h hc hstatement
    have hentry : planEntry c = text := by
      rw [planEntry, hstatement, givenOr]
      refine if_neg fun hempty => ?_
      rw [String.isEmpty_iff.mp hempty] at hfirst
      cases hfirst
    rw [hentry]
    refine .inr ⟨rfl, isRemark_eq_false ?_⟩
    rw [hfirst]
    exact fun heq => hdash (Option.some.inj heq)

/-- Entries of which each is the statement of its change or else a remark. -/
lemma filter_planEntry {changes : List Change}
    (h : ∀ c ∈ changes, (c.statement = none ∧ isRemark (planEntry c) = true) ∨
      (c.statement = some (planEntry c) ∧ isRemark (planEntry c) = false)) :
    (changes.map planEntry).filter (fun entry => !isRemark entry) =
      changes.filterMap Change.statement := by
  induction changes with
  | nil => rfl
  | cons c rest ih =>
    have hrest := ih fun c' hc' => h c' (List.mem_cons_of_mem c hc')
    rw [List.map_cons, List.filter_cons, List.filterMap_cons, hrest]
    rcases h c List.mem_cons_self with ⟨hstatement, hremark⟩ | ⟨hstatement, hremark⟩
    · simp [hstatement, hremark]
    · rw [hstatement, hremark]
      rfl

end Cli

/-! ## What a run does with each change -/

namespace Synchronizer

variable {σ : Type} [Store σ] (t : Synchronizer)

/-- A change without a statement fails and leaves the store alone. Otherwise its statement is
executed, and the change is applied if this is answered. -/
lemma applyChange_cases (c : Change) (s : Surroundings σ) :
    (c.statement = none ∧ ∃ failure s', t.applyChange c s = (some failure, s') ∧
      s'.store = s.store) ∨
    ∃ text, c.statement = some text ∧
      ((∃ fault failure s', t.applyChange c s = (some failure, s') ∧
          Store.execute (.plain text) s.store = (.error fault, s'.store)) ∨
        ∃ answer s', t.applyChange c s = (none, s') ∧
          Store.execute (.plain text) s.store = (.ok answer, s'.store)) := by
  rw [applyChange]
  cases c.statement with
  | none => exact .inl ⟨rfl, _, _, rfl, rfl⟩
  | some text =>
    refine .inr ⟨text, rfl, ?_⟩
    simp only [Surroundings.execute]
    rcases Store.execute (.plain text) s.store with ⟨fault | answer, store⟩
    · exact .inl ⟨fault, _, _, rfl, rfl⟩
    · exact .inr ⟨answer, _, rfl, rfl⟩

variable {t} {c : Change} {s s' : Surroundings σ}

/-- With a plan at hand, a run is the application of its changes. -/
lemma run_of_plan {existed : Bool} {changes : List Change} {store : σ}
    (h : t.plan s.store = (.ok (existed, changes), store)) :
    ∃ s', s'.store = store ∧
      t.run s = t.applyChanges changes (.start t.table existed) s' := by
  rw [run, h]
  exact ⟨_, rfl, rfl⟩

lemma applyChanges_cons_applied (h : t.applyChange c s = (none, s')) (rest : List Change)
    (report : Report) :
    t.applyChanges (c :: rest) report s =
      t.applyChanges rest { report with applied := report.applied ++ [c] } s' := by
  rw [applyChanges, h]

lemma applyChanges_cons_failed {failure : Failure} (h : t.applyChange c s = (some failure, s'))
    (rest : List Change) (report : Report) :
    t.applyChanges (c :: rest) report s =
      t.applyChanges rest { report with failed := report.failed ++ [(c, failure)] } s' := by
  rw [applyChanges, h]

end Synchronizer

namespace Recorder

variable {σ : Type} [Store σ] (r : Recorder σ)

/-- Whether a store applies a change: there is a statement for it, and this does not fail. -/
def applies (s : σ) (c : Change) : Bool :=
  match c.statement with
  | none => false
  | some text => !r.fails s (.plain text)

/-- Between two moments of a run, each of some changes has been accounted for once: its statement is
recorded if it has one, and the report has it as applied or as failed. -/
structure Accounts (changes : List Change) (before after : Report × Surroundings σ) : Prop where
  executed : r.executed after.2.store =
    r.executed before.2.store ++ (changes.filterMap Change.statement).map Statement.plain
  fails : r.fails after.2.store = r.fails before.2.store
  applied : after.1.applied = before.1.applied ++ changes.filter (r.applies before.2.store)
  failed : after.1.failed.map Prod.fst =
    before.1.failed.map Prod.fst ++ changes.filter fun c => !r.applies before.2.store c
  error : after.1.error = before.1.error

variable {r} {s s' : σ} {x y z : Report × Surroundings σ}

lemma applies_of_none {c : Change} (h : c.statement = none) : r.applies s c = false := by
  rw [applies, h]

lemma applies_of_some {c : Change} {text : String} (h : c.statement = some text) :
    r.applies s c = (Store.execute (.plain text) s).1.isOk := by
  rw [applies, h, r.isOk_execute]

lemma applies_congr (h : r.fails s' = r.fails s) : r.applies s' = r.applies s := by
  funext c
  rw [applies, applies, h]

lemma accounts_nil (x : Report × Surroundings σ) : r.Accounts [] x x where
  executed := by simp
  fails := rfl
  applied := by simp
  failed := by simp
  error := rfl

lemma Accounts.append {first second : List Change} (h : r.Accounts first x y)
    (h' : r.Accounts second y z) : r.Accounts (first ++ second) x z where
  executed := by
    rw [h'.executed, h.executed, List.filterMap_append, List.map_append, List.append_assoc]
  fails := h'.fails.trans h.fails
  applied := by
    rw [h'.applied, h.applied, applies_congr h.fails, List.filter_append, List.append_assoc]
  failed := by
    rw [h'.failed, h.failed, applies_congr h.fails, List.filter_append, List.append_assoc]
  error := h'.error.trans h.error

variable (r) (t : Synchronizer)

/-- One change at the head of a run is accounted for, and the run goes on with the rest. -/
lemma exists_accounts_step (c : Change) (rest : List Change) (report : Report)
    (s : Surroundings σ) :
    ∃ report' s', t.applyChanges (c :: rest) report s = t.applyChanges rest report' s' ∧
      r.Accounts [c] (report, s) (report', s') := by
  rcases t.applyChange_cases c s with ⟨hnone, failure, s', happly, hstore⟩ | ⟨text, htext, hrun⟩
  · have happlies := applies_of_none (r := r) (s := s.store) hnone
    refine ⟨_, s', Synchronizer.applyChanges_cons_failed happly rest report, ?_⟩
    exact ⟨by simp [hnone, hstore], by rw [hstore], by simp [happlies], by simp [happlies], rfl⟩
  · have hexecuted := r.executed_execute (.plain text) s.store
    have hfails := r.fails_execute (.plain text) s.store
    have happlies := applies_of_some (r := r) (s := s.store) htext
    rcases hrun with ⟨fault, failure, s', happly, hanswer⟩ | ⟨answer, s', happly, hanswer⟩
    all_goals rw [hanswer] at hexecuted hfails happlies
    · refine ⟨_, s', Synchronizer.applyChanges_cons_failed happly rest report, ?_⟩
      exact ⟨by simpa [htext] using hexecuted, hfails, by simp [happlies, Except.isOk,
        Except.toBool], by simp [happlies, Except.isOk, Except.toBool], rfl⟩
    · refine ⟨_, s', Synchronizer.applyChanges_cons_applied happly rest report, ?_⟩
      exact ⟨by simpa [htext] using hexecuted, hfails, by simp [happlies, Except.isOk,
        Except.toBool], by simp [happlies, Except.isOk, Except.toBool], rfl⟩

/-- A run accounts for all of its changes. -/
lemma accounts_applyChanges (changes : List Change) (report : Report) (s : Surroundings σ) :
    r.Accounts changes (report, s) (t.applyChanges changes report s) := by
  induction changes generalizing report s with
  | nil => exact accounts_nil _
  | cons c rest ih =>
    obtain ⟨report', s', hrun, hstep⟩ := exists_accounts_step r t c rest report s
    rw [hrun]
    exact hstep.append (ih report' s')

end Recorder

/-! ## The report of a run -/

namespace Synchronizer

/-- A run always ends in a report. If its plan fails, the report says so and nothing is executed.
Otherwise the statements of the plan are executed in its order, each of them once and without
parameters, and every change of the plan is reported once: as applied if there is a statement for it
that does not fail, and as failed otherwise. What is shown of the plan without its remarks is what
is executed. -/
theorem run_accounts {σ : Type} [Store σ] (r : Recorder σ) (t : Synchronizer)
    (s : Surroundings σ) :
    (∀ fault store, t.plan s.store = (.error fault, store) →
      (t.run s).1.error = some (.structural fault.message (.text t.table) .null .null) ∧
      (t.run s).1.applied = [] ∧ (t.run s).1.failed = [] ∧
      r.executed (t.run s).2.store = r.executed s.store) ∧
    (∀ existed changes store, t.plan s.store = (.ok (existed, changes), store) →
      (t.run s).1.error = none ∧
      r.executed (t.run s).2.store =
        r.executed s.store ++ (changes.filterMap Change.statement).map Statement.plain ∧
      (t.run s).1.applied = changes.filter (r.applies s.store) ∧
      (t.run s).1.failed.map Prod.fst = changes.filter (fun c => !r.applies s.store c) ∧
      ((t.run s).1.applied ++ (t.run s).1.failed.map Prod.fst).Perm changes ∧
      ((t.run s).1.isOk = true ↔ (t.run s).1.failed = []) ∧
      ∃ entries, (Cli.planEntries t s.store).1 = .ok entries ∧
        entries.filter (fun entry => !Cli.isRemark entry) =
          changes.filterMap Change.statement) := by
  have hexecuted := t.plan_keeps r.executed (r.executed_tableExists t.table)
    (r.executed_describeColumns t.table) s.store
  have hfails := t.plan_keeps r.fails (r.fails_tableExists t.table)
    (r.fails_describeColumns t.table) s.store
  refine ⟨?_, ?_⟩
  · intro fault store hplan
    rw [hplan] at hexecuted
    rw [run, hplan]
    exact ⟨rfl, rfl, rfl, hexecuted⟩
  · intro existed changes store hplan
    rw [hplan] at hexecuted hfails
    obtain ⟨s', rfl, hrun⟩ := run_of_plan hplan
    have haccounts := r.accounts_applyChanges t changes (.start t.table existed) s'
    rw [← hrun] at haccounts
    have happlies : r.applies s'.store = r.applies s.store := Recorder.applies_congr hfails
    have happlied : (t.run s).1.applied = changes.filter (r.applies s.store) := by
      rw [← happlies]
      exact haccounts.applied
    have hfailed : (t.run s).1.failed.map Prod.fst =
        changes.filter fun c => !r.applies s.store c := by
      rw [← happlies]
      exact haccounts.failed
    have herror : (t.run s).1.error = none := haccounts.error
    refine ⟨herror, ?_, happlied, hfailed, ?_, ?_, changes.map Cli.planEntry, ?_, ?_⟩
    · rw [← hexecuted]
      exact haccounts.executed
    · rw [happlied, hfailed]
      exact List.filter_append_perm _ changes
    · simp [Report.isOk, herror]
    · rw [Cli.planEntries, hplan]
      rfl
    · exact Cli.filter_planEntry fun c hc => Cli.planEntry_cases hplan hc

/-- A store with a table whose columns do not all fit, in which one addition fails. -/
def partialStore : ScriptedStore :=
  { script :=
      { tables := [("users", [⟨"id", "INTEGER"⟩, ⟨"AGE", "VARCHAR(10)"⟩])]
        failing := ["ADD COLUMN `name`"], inspectError := none, describeError := none
        rows := [], insertsGiveRows := false, affected := [] }
    nextId := 1
    executed := [] }

/-- A store that cannot be asked for its tables. -/
def mutedStore : ScriptedStore :=
  { partialStore with script := { partialStore.script with inspectError := some "no connection" } }

/-- The synchronizer of a table of users, in the dialect that cannot widen a column. -/
def userSync : Synchronizer := ⟨⟨.sqlite, 255⟩, "users", .named userFields⟩

/-- One column fails to be added, one cannot be widened, and one is added. A store that cannot be
inspected is left alone. -/
theorem run_accounts_userSync :
    (userSync.run (.start partialStore)).2.store.executed =
      [.plain "ALTER TABLE `users` ADD COLUMN `name` VARCHAR(255)",
        .plain "ALTER TABLE `users` ADD COLUMN `active` BOOLEAN"] ∧
    (userSync.run (.start partialStore)).1.applied = [addition "users" "active" "BOOLEAN"] ∧
    (userSync.run (.start partialStore)).1.failed.map Prod.fst =
      [addition "users" "name" "VARCHAR(255)",
        widening ⟨.sqlite, 255⟩ "users" "age" "VARCHAR(10)" "INT"] ∧
    (userSync.run (.start mutedStore)).1.error =
      some (.structural "no connection" (.text "users") .null .null) ∧
    (userSync.run (.start mutedStore)).2.store.executed = [] := by
  have hplan : userSync.plan partialStore =
      (.ok (true, [addition "users" "name" "VARCHAR(255)",
        widening ⟨.sqlite, 255⟩ "users" "age" "VARCHAR(10)" "INT",
        addition "users" "active" "BOOLEAN"]), partialStore) := rfl
  have hmuted : userSync.plan mutedStore =
      (.error (.failure (.rejected "no connection" .null [])), mutedStore) := rfl
  obtain ⟨-, hexecuted, happlied, hfailed, -⟩ :=
    (run_accounts ScriptedStore.recorder userSync (.start partialStore)).2 true _ _ hplan
  obtain ⟨herror, -, -, hnothing⟩ :=
    (run_accounts ScriptedStore.recorder userSync (.start mutedStore)).1 _ _ hmuted
  exact ⟨hexecuted, happlied.trans (by decide +kernel), hfailed.trans (by decide +kernel), herror,
    hnothing⟩

end Synchronizer
end DocTable
