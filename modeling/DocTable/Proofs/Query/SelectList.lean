/-
# Select lists and the groupings that they belong to

A grouping that selects anything sets the select list together with the grouping expressions, and
each expression of its select list is one of the keys or accumulates the rows of a group. A
projection that selects anything sets the select list alone, and leaves the grouping expressions of
the grouping before it. So the two belong together exactly if no projection behind the last grouping
selects anything else.
-/
import DocTable.Proofs.Query.ClosedWrites
import DocTable.Proofs.Query.Reordering

namespace DocTable
namespace Pipeline

open Query (entryOf)

variable {d : Dialect}

/-! ## Expressions of a grouping -/

/-- An expression that belongs to a grouping: one of its keys, by itself or under a label, or a
function that accumulates a column or a number. -/
inductive Grouping.Selects (d : Dialect) (keys : List String) : String → Prop
  | key {key : String} (h : key ∈ keys) : Selects d keys key
  | labelled {key label : String} (h : key ∈ keys) :
      Selects d keys (key ++ " AS " ++ Dialect.quote label)
  | accumulated {word function argument label : String} {source : Value}
      (hfunction : accumulators.lookup word = some function)
      (hargument : accumulated? d source = some argument) :
      Selects d keys (function ++ "(" ++ argument ++ ") AS " ++ Dialect.quote label)

variable {keys others : List String} {columns : List String}

lemma Grouping.Selects.mono {column : String} (h : Grouping.Selects d keys column)
    (hkeys : keys ⊆ others) : Grouping.Selects d others column := by
  cases h with
  | key hkey => exact .key (hkeys hkey)
  | labelled hkey => exact .labelled (hkeys hkey)
  | accumulated hfunction hargument => exact .accumulated hfunction hargument

lemma selects_labelled {path : String} {label : Value} {column : String}
    (h : labelled d (.text path) label = .ok column) (hpath : Path.compile d path ∈ keys) :
    Grouping.Selects d keys column := by
  simp only [labelled, bind_eq_ok_iff] at h
  obtain ⟨inside, -, h⟩ := h
  split_ifs at h
  · cases h
    exact .key hpath
  · simp only [bind_eq_ok_iff, pure_eq_ok, Except.ok.injEq] at h
    obtain ⟨name, hname, rfl⟩ := h
    obtain ⟨text, rfl⟩ := exists_quote_of_quoteValue hname
    exact .labelled hpath

lemma selects_compileKeys {references : List (String × Value)} {g : Grouping}
    (h : compileKeys d references = .ok g) : ∀ c ∈ g.columns, Grouping.Selects d g.keys c := by
  induction references generalizing g with
  | nil =>
    cases h
    simp
  | cons reference references ih =>
    obtain ⟨path, label⟩ := reference
    simp only [compileKeys, bind_eq_ok_iff, pure_eq_ok, Except.ok.injEq] at h
    obtain ⟨column, hcolumn, others, hothers, rfl⟩ := h
    refine List.forall_mem_cons.2 ⟨selects_labelled hcolumn List.mem_cons_self, fun c hc => ?_⟩
    exact (ih hothers c hc).mono (List.subset_cons_self _ _)

lemma selects_compileAccumulators {label : Value} {spec : Entries}
    (h : compileAccumulators d label spec = .ok columns) :
    ∀ c ∈ columns, Grouping.Selects d keys c := by
  induction spec generalizing columns with
  | nil =>
    cases h
    simp
  | cons entry spec ih =>
    obtain ⟨accumulator, source⟩ := entry
    rw [compileAccumulators] at h
    split at h
    · rename_i function argument hfunction hargument
      simp only [bind_eq_ok_iff, pure_eq_ok, Except.ok.injEq] at h
      obtain ⟨name, hname, rest, hrest, rfl⟩ := h
      obtain ⟨text, rfl⟩ := exists_quote_of_quoteValue hname
      exact List.forall_mem_cons.2 ⟨.accumulated hfunction hargument, ih hrest⟩
    · exact ih h

lemma selects_compileGroupEntry {key value : Value} {g : Grouping}
    (h : compileGroupEntry d key value = .ok g) :
    ∀ c ∈ g.columns, Grouping.Selects d g.keys c := by
  unfold compileGroupEntry at h
  split_ifs at h
  · exact selects_compileKeys h
  · split at h
    · simp only [bind_eq_ok_iff, pure_eq_ok, Except.ok.injEq] at h
      obtain ⟨columns, hcolumns, rfl⟩ := h
      exact selects_compileAccumulators hcolumns
    · cases h
      simp

/-- Each expression of the select list of a grouping belongs to it. -/
lemma selects_compileGroup {spec : Entries} {g : Grouping} (h : compileGroup d spec = .ok g) :
    ∀ c ∈ g.columns, Grouping.Selects d g.keys c := by
  induction spec generalizing g with
  | nil =>
    cases h
    simp
  | cons entry spec ih =>
    obtain ⟨key, value⟩ := entry
    simp only [compileGroup, bind_eq_ok_iff, pure_eq_ok, Except.ok.injEq] at h
    obtain ⟨first, hfirst, others, hothers, rfl⟩ := h
    refine List.forall_mem_append.2 ⟨fun c hc => ?_, fun c hc => ?_⟩
    · exact (selects_compileGroupEntry hfirst c hc).mono (List.subset_append_left _ _)
    · exact (ih hothers c hc).mono (List.subset_append_right _ _)

/-! ## Select lists that stages set -/

/-- The select list of a projection that selects anything. -/
def Stage.projected? (d : Dialect) : Stage → Option (List String)
  | .project spec => (compileProject d spec).toOption.filter fun columns => !columns.isEmpty
  | _ => none

/-- The select list and the keys of a grouping that selects anything. -/
def Stage.grouped? (d : Dialect) : Stage → Option Grouping
  | .group spec => (compileGroup d spec).toOption.filter fun g => !g.columns.isEmpty
  | _ => none

lemma grouped?_eq_some {stage : Stage} {g : Grouping} (h : stage.grouped? d = some g) :
    ∃ spec, stage = .group spec ∧ compileGroup d spec = .ok g ∧ g.columns ≠ [] := by
  cases stage with
  | group spec =>
    rw [Stage.grouped?, Option.filter_eq_some_iff] at h
    refine ⟨spec, rfl, ?_, by simpa using h.2⟩
    cases hgroup : compileGroup d spec with
    | error fault =>
      rw [hgroup] at h
      cases h.1
    | ok grouping =>
      rw [hgroup] at h
      exact congrArg Except.ok (Option.some.inj h.1)
  | _ => cases h

/-- The last select list of projections that select anything, or else the one before them. -/
def lastProjected (d : Dialect) (stages : List Stage) (before : List String) : List String :=
  (stages.filterMap (Stage.projected? d)).getLast?.getD before

lemma lastProjected_cons (stage : Stage) (stages : List Stage) (before : List String) :
    lastProjected d (stage :: stages) before =
      lastProjected d stages ((stage.projected? d).getD before) := by
  rw [lastProjected, lastProjected, List.filterMap_cons]
  cases stage.projected? d with
  | none => rfl
  | some columns => simp [List.getLast?_cons]

namespace State

variable {s next final : State} {stage : Stage} {stages : List Stage} {g : Grouping}

/-- A grouping that selects anything sets the select list and the keys. -/
lemma columns_step_of_grouped (h : s.step d stage = .ok next) (hg : stage.grouped? d = some g) :
    next.columns = g.columns ∧ next.grouping = g.keys := by
  cases stage with
  | group spec =>
    simp only [step, bind_eq_ok_iff, pure_eq_ok, Except.ok.injEq] at h
    obtain ⟨grouping, hgrouping, rfl⟩ := h
    rw [Stage.grouped?, hgrouping] at hg
    obtain ⟨rfl, hsome⟩ : grouping = g ∧ _ := by simpa [Except.toOption] using hg
    simp [hsome]
  | _ => cases hg

/-- Any other stage leaves the keys, and sets the select list if it is a projection that selects
anything. -/
lemma columns_step_of_not_grouped (h : s.step d stage = .ok next)
    (hg : stage.grouped? d = none) :
    next.columns = (stage.projected? d).getD s.columns ∧ next.grouping = s.grouping := by
  cases stage with
  | project spec =>
    simp only [step, bind_eq_ok_iff, pure_eq_ok, Except.ok.injEq] at h
    obtain ⟨columns, hcolumns, rfl⟩ := h
    rw [Stage.projected?, hcolumns]
    split_ifs with hempty <;> simp [Except.toOption, Option.filter, hempty]
  | group spec =>
    simp only [step, bind_eq_ok_iff, pure_eq_ok, Except.ok.injEq] at h
    obtain ⟨grouping, hgrouping, rfl⟩ := h
    rw [Stage.grouped?, hgrouping] at hg
    have hempty : grouping.columns.isEmpty = true := by simpa [Except.toOption] using hg
    rw [if_pos hempty]
    exact ⟨rfl, rfl⟩
  | filter conditions =>
    simp only [step, bind_eq_ok_iff, pure_eq_ok, Except.ok.injEq] at h
    obtain ⟨clauses, -, rfl⟩ := h
    exact ⟨rfl, rfl⟩
  | limit count | skip count =>
    simp only [step, bind_eq_ok_iff, pure_eq_ok, Except.ok.injEq] at h
    obtain ⟨n, -, rfl⟩ := h
    exact ⟨rfl, rfl⟩
  | sort keys | unknown =>
    cases h
    exact ⟨rfl, rfl⟩

/-- Without a grouping that selects anything, the keys are left, and the last projection that
selects anything has set the select list. -/
lemma columns_run_of_not_grouped (h : s.run d stages = .ok final)
    (hg : ∀ stage ∈ stages, stage.grouped? d = none) :
    final.columns = lastProjected d stages s.columns ∧ final.grouping = s.grouping := by
  induction stages generalizing s with
  | nil =>
    cases h
    exact ⟨rfl, rfl⟩
  | cons stage stages ih =>
    rw [run, bind_eq_ok_iff] at h
    obtain ⟨next, hstep, hrun⟩ := h
    obtain ⟨hstage, hstages⟩ := List.forall_mem_cons.1 hg
    obtain ⟨hcolumns, hgrouping⟩ := columns_step_of_not_grouped hstep hstage
    rw [lastProjected_cons, ← hcolumns, ← hgrouping]
    exact ih hrun hstages

end State

/-- Some stages have no grouping that selects anything, or a last one. -/
lemma not_grouped_or_exists_last (d : Dialect) (stages : List Stage) :
    (∀ stage ∈ stages, stage.grouped? d = none) ∨
      ∃ before stage after g, stages = before ++ stage :: after ∧ stage.grouped? d = some g ∧
        ∀ later ∈ after, later.grouped? d = none := by
  induction stages with
  | nil => exact .inl (by simp)
  | cons stage stages ih =>
    rcases ih with hnone | ⟨before, last, after, g, rfl, hg, hafter⟩
    · cases hg : stage.grouped? d with
      | none => exact .inl (List.forall_mem_cons.2 ⟨hg, hnone⟩)
      | some g => exact .inr ⟨[], stage, stages, g, rfl, hg, hnone⟩
    · exact .inr ⟨stage :: before, last, after, g, rfl, hg, hafter⟩

/-- Where the statement of a pipeline has grouping expressions, they are the keys of the last
grouping that selects anything, and each expression of its select list is one of the keys or
accumulates. The select list of the statement is that of the last projection behind the grouping
that selects anything, and without any that of the grouping: so it is the list of the grouping
exactly if no such projection has another one. -/
theorem selectList_compilePipeline (d : Dialect) (table : String) {pipeline : Value}
    {s : Statement} (h : compilePipeline d table pipeline = .ok s) :
    ∃ sequence final, stages pipeline = .ok sequence ∧ State.start.run d sequence = .ok final ∧
      final.statement d table = .ok s ∧
      (final.grouping ≠ [] →
        ∃ before spec after g, sequence = before ++ .group spec :: after ∧
          compileGroup d spec = .ok g ∧ (∀ c ∈ g.columns, Grouping.Selects d g.keys c) ∧
          (∀ later ∈ after, later.grouped? d = none) ∧
          final.grouping = g.keys ∧ final.columns = lastProjected d after g.columns ∧
          (final.columns = g.columns ↔
            ∀ columns ∈ (after.filterMap (Stage.projected? d)).getLast?, columns = g.columns)) := by
  obtain ⟨sequence, final, hsequence, hrun, hstatement⟩ := compilePipeline_eq_ok_iff.1 h
  refine ⟨sequence, final, hsequence, hrun, hstatement, fun hsome => ?_⟩
  rcases not_grouped_or_exists_last d sequence with hnone |
    ⟨before, stage, after, g, rfl, hstage, hafter⟩
  · -- then there is still no grouping, as at the start
    exact absurd (State.columns_run_of_not_grouped hrun hnone).2 hsome
  · obtain ⟨spec, rfl, hgroup, -⟩ := grouped?_eq_some hstage
    obtain ⟨between, -, hrun⟩ := State.run_append_eq_ok_iff.1 hrun
    rw [State.run, bind_eq_ok_iff] at hrun
    obtain ⟨next, hstep, hrun⟩ := hrun
    obtain ⟨hcolumns, hkeys⟩ := State.columns_step_of_grouped hstep hstage
    obtain ⟨hlast, hkept⟩ := State.columns_run_of_not_grouped hrun hafter
    rw [hcolumns] at hlast
    refine ⟨before, spec, after, g, rfl, hgroup, selects_compileGroup hgroup, hafter,
      hkept.trans hkeys, hlast, ?_⟩
    rw [hlast, lastProjected]
    cases (after.filterMap (Stage.projected? d)).getLast? <;> simp

/-- The specification of a total for each department. -/
def totalByDepartment : Entries :=
  [(.text "_id", .text "$dept"), (.text "total", entryOf "$sum" (.text "$salary"))]

/-- The specification of a projection on names. -/
def namesOnly : Entries := [(.text "name", .int 1)]

/-- A grouping behind a projection: both parts are those of the grouping. -/
theorem selectList_compilePipeline_group_last :
    compilePipeline .standard "t"
        (.list [entryOf "$project" (.map namesOnly), entryOf "$group" (.map totalByDepartment)]) =
      .ok ⟨"SELECT `dept`, SUM(`salary`) AS `total` FROM `t` GROUP BY `dept`", []⟩ ∧
      ∃ final : State, final.grouping = ["`dept`"] ∧
        final.statement .standard "t" =
          .ok ⟨"SELECT `dept`, SUM(`salary`) AS `total` FROM `t` GROUP BY `dept`", []⟩ ∧
        ∃ g, compileGroup .standard totalByDepartment = .ok g ∧ final.columns = g.columns ∧
          ∀ c ∈ g.columns, Grouping.Selects .standard g.keys c := by
  have h : compilePipeline .standard "t"
      (.list [entryOf "$project" (.map namesOnly), entryOf "$group" (.map totalByDepartment)]) =
      .ok ⟨"SELECT `dept`, SUM(`salary`) AS `total` FROM `t` GROUP BY `dept`", []⟩ := rfl
  obtain ⟨sequence, final, hsequence, hrun, hstatement, hgrouped⟩ :=
    selectList_compilePipeline .standard "t" h
  cases hsequence
  cases hrun
  obtain ⟨before, spec, after, g, hsplit, hgroup, hselects, -, -, hcolumns, -⟩ :=
    hgrouped (List.cons_ne_nil _ _)
  refine ⟨h, _, rfl, hstatement, g, ?_⟩
  -- the grouping is the second of the two stages
  match before, hsplit with
  | [_], hsplit =>
    cases hsplit
    exact ⟨hgroup, hcolumns, hselects⟩
  | [], hsplit | _ :: _ :: [], hsplit | _ :: _ :: _ :: _, hsplit => cases hsplit

/-- A projection behind a grouping: the grouping stays, and the select list is another one. -/
theorem selectList_compilePipeline_project_last :
    compilePipeline .standard "t"
        (.list [entryOf "$group" (.map totalByDepartment), entryOf "$project" (.map namesOnly)]) =
      .ok ⟨"SELECT `name` FROM `t` GROUP BY `dept`", []⟩ ∧
      compileGroup .standard totalByDepartment =
        .ok ⟨["`dept`", "SUM(`salary`) AS `total`"], ["`dept`"]⟩ :=
  ⟨rfl, rfl⟩

end Pipeline
end DocTable
