/-
# The filter of a selection and of a write

A selection reads its filter as the conditions of a query, a write as what it is restricted to, and
a pipeline as the payload of a stage. For a mapping all of them compile the same clauses. Anything
else restricts none of them, with one exception: a query takes a text that is not empty for a path,
at which it asks for nothing to be found.
-/
import DocTable.Proofs.Model.Requests
import DocTable.Proofs.Query.Chain

namespace DocTable

open Query (entryOf filtered)

/-! ## Values that are no filters -/

/-- What is no mapping has no conditions. -/
lemma compileFilter_of_not_map {conditions : Value} (d : Dialect)
    (hmap : ∀ entries, conditions ≠ .map entries) : compileFilter d conditions = .ok [] := by
  cases conditions with
  | map entries => exact absurd rfl (hmap entries)
  | _ => rfl

/-- A field that is not a text is compared with nothing. -/
lemma clauses_filter_of_not_text {field : Value} (d : Dialect)
    (hmap : ∀ entries, field ≠ .map entries) (htext : ∀ path, field ≠ .text path) :
    (Query.Call.filter field .null).clauses d = .ok [] := by
  cases field with
  | map entries => exact absurd rfl (hmap entries)
  | text path => exact absurd rfl (htext path)
  | _ => rfl

namespace Model

variable {m : Model}

/-! ## The query of a filter -/

lemma find_map (entries : Entries) :
    m.find (.map entries) =
      (compileFilter m.dialect (.map entries)).map (filtered m.dialect m.table) := by
  have hself : (Value.map entries).orElse (.map []) = .map entries := by cases entries <;> rfl
  have hclauses : (Query.Call.filter (.map entries) .null).clauses m.query.dialect =
      compileFilter m.dialect (.map entries) := rfl
  rw [find, hself, Query.apply, hclauses]
  cases compileFilter m.dialect (.map entries) <;> rfl

lemma find_of_not_text {conditions : Value} (hmap : ∀ entries, conditions ≠ .map entries)
    (htext : ∀ path, conditions ≠ .text path) : m.find conditions = .ok m.query := by
  rw [find, Value.orElse]
  split
  · rw [Query.apply, clauses_filter_of_not_text _ hmap htext]
    rfl
  · rfl

/-- A text that is not empty is a path at which nothing is to be found. -/
lemma find_text {path : String} (hpath : path ≠ "") :
    m.find (.text path) =
      .ok (filtered m.dialect m.table [.plain (Path.compile m.dialect path ++ " IS NULL")]) := by
  have hself : (Value.text path).orElse (.map []) = .text path := by
    rw [Value.orElse, if_pos]
    simp [Value.isTruthy, hpath]
  rw [find, hself]
  rfl

/-- The query of a filter has the clauses of the filter. -/
lemma find_eq {conditions : Value} (hconditions : ∀ path, conditions = .text path → path = "") :
    m.find conditions =
      (compileFilter m.dialect conditions).map (filtered m.dialect m.table) := by
  by_cases hmap : ∃ entries, conditions = .map entries
  · obtain ⟨entries, rfl⟩ := hmap
    exact find_map entries
  · rw [not_exists] at hmap
    rw [compileFilter_of_not_map m.dialect hmap]
    by_cases htext : ∃ path, conditions = .text path
    · obtain ⟨path, rfl⟩ := htext
      rw [hconditions path rfl]
      rfl
    · rw [not_exists] at htext
      exact find_of_not_text hmap htext

/-- A query of a filter can be had unless the filter does not compile. -/
lemma find_eq_error_iff {conditions : Value} {fault : Fault} :
    m.find conditions = .error fault ↔ compileFilter m.dialect conditions = .error fault := by
  by_cases htext : ∃ path, conditions = .text path ∧ path ≠ ""
  · obtain ⟨path, rfl, hpath⟩ := htext
    rw [find_text hpath, compileFilter_of_not_map m.dialect (by simp)]
    simp
  · have hconditions : ∀ path, conditions = .text path → path = "" := by
      intro path hpath
      by_contra hne
      exact htext ⟨path, hpath, hne⟩
    rw [find_eq hconditions]
    cases compileFilter m.dialect conditions <;> simp [Except.map]

end Model

/-! ## The same filter elsewhere -/

/-- The stage of a filter adds the clauses of the filter. -/
lemma step_match (d : Dialect) (conditions : Value) :
    Pipeline.State.start.step d (.ofValue (entryOf "$match" conditions)) =
      (compileFilter d conditions).map fun clauses =>
        { Pipeline.State.start with conditions := clauses } := by
  by_cases hmap : ∃ entries, conditions = .map entries
  · obtain ⟨entries, rfl⟩ := hmap
    have hstage : Pipeline.Stage.ofValue (entryOf "$match" (.map entries)) =
        .filter entries := rfl
    rw [hstage, Pipeline.State.step]
    cases compileFilter d (.map entries) <;> rfl
  · rw [not_exists] at hmap
    have hstage : Pipeline.Stage.ofValue (entryOf "$match" conditions) = .unknown := by
      cases conditions with
      | map entries => exact absurd rfl (hmap entries)
      | _ => rfl
    rw [hstage, compileFilter_of_not_map d hmap]
    rfl

/-- The pipeline of a filter is the query with the clauses of the filter. -/
lemma compilePipeline_match (d : Dialect) (table : String) (conditions : Value) :
    compilePipeline d table (.list [entryOf "$match" conditions]) =
      (compileFilter d conditions).bind fun clauses => (filtered d table clauses).compile := by
  rw [compilePipeline, Query.stages_list, List.map_singleton]
  simp only [ok_bind, Pipeline.State.run]
  rw [step_match]
  cases compileFilter d conditions with
  | error fault => rfl
  | ok clauses =>
    have hmirrors : Query.Mirrors d table (filtered d table clauses)
        { Pipeline.State.start with conditions := clauses } :=
      { Query.mirrors_start d table with conditions := rfl }
    exact hmirrors.compile_eq.symm

namespace Model

/-- For all but texts that are not empty, the query, the deletion, the update and the pipeline of
one filter are restricted by the same clause with the same parameters; and if the query cannot be
had, the others fail in the same way. -/
theorem restriction_find (m : Model) (conditions : Value)
    (hconditions : ∀ path, conditions = .text path → path = "") :
    (∀ q, m.find conditions = .ok q →
      q.compile = .ok ⟨"SELECT * FROM " ++ Dialect.quote m.table ++ q.restriction.text,
        q.restriction.params⟩ ∧
      compileDelete m.dialect m.table conditions false =
        .ok ⟨"DELETE FROM " ++ Dialect.quote m.table ++ q.restriction.text,
          q.restriction.params⟩ ∧
      (∀ pairs assignments, quotedNames pairs " = ?" = .ok assignments →
        compileUpdate m.dialect m.table pairs conditions false =
          .ok ⟨"UPDATE " ++ Dialect.quote m.table ++ " SET " ++ assignments
            ++ q.restriction.text, pairs.map Prod.snd ++ q.restriction.params⟩) ∧
      compilePipeline m.dialect m.table (.list [entryOf "$match" conditions]) =
        .ok ⟨"SELECT * FROM " ++ Dialect.quote m.table ++ q.restriction.text,
          q.restriction.params⟩) ∧
    (∀ fault, m.find conditions = .error fault →
      compileDelete m.dialect m.table conditions false = .error fault ∧
      (∀ pairs assignments, quotedNames pairs " = ?" = .ok assignments →
        compileUpdate m.dialect m.table pairs conditions false = .error fault) ∧
      compilePipeline m.dialect m.table (.list [entryOf "$match" conditions]) = .error fault) := by
  rw [find_eq hconditions, compilePipeline_match]
  cases hclauses : compileFilter m.dialect conditions with
  | ok clauses =>
    refine ⟨fun q hq => ?_, fun fault hfault => ?_⟩
    · cases hq
      have hcompile := Query.compile_filtered m.dialect m.table clauses
      exact ⟨hcompile, Query.compileDelete_filtered m.table hclauses,
        fun pairs assignments hpairs => Query.compileUpdate_filtered m.table hclauses hpairs,
        hcompile⟩
    · cases hfault
  | error other =>
    refine ⟨fun q hq => ?_, fun fault hfault => ?_⟩
    · cases hq
    · cases hfault
      refine ⟨?_, fun pairs assignments hpairs => ?_, rfl⟩
      · rw [compileDelete, compileWhere, hclauses]
        rfl
      · rw [compileUpdate, hpairs, compileWhere, hclauses]
        rfl

/-- A filter that restricts, one that is no mapping, and one that does not compile. -/
theorem restriction_find_ofUsers :
    compileDelete ofUsers.dialect ofUsers.table (.map [(.text "age", .int 18)]) false =
        .ok ⟨"DELETE FROM `users` WHERE `age` = ?", [.int 18]⟩ ∧
      compilePipeline ofUsers.dialect ofUsers.table (.list [entryOf "$match" (.int 18)]) =
        .ok ⟨"SELECT * FROM `users`", []⟩ ∧
      compileUpdate ofUsers.dialect ofUsers.table [(.text "age", .int 19)] (.text "") false =
        .ok ⟨"UPDATE `users` SET `age` = ?", [.int 19]⟩ ∧
      ∃ fault, compilePipeline ofUsers.dialect ofUsers.table
        (.list [entryOf "$match" (.map [(.text "age", .map [(.tuple [], .null)])])]) =
          .error fault := by
  have hmap := restriction_find ofUsers (.map [(.text "age", .int 18)]) (by simp)
  have hnumber := restriction_find ofUsers (.int 18) (by simp)
  have hempty := restriction_find ofUsers (.text "") (by simp)
  have hfault := restriction_find ofUsers (.map [(.text "age", .map [(.tuple [], .null)])])
    (by simp)
  exact ⟨(hmap.1 _ rfl).2.1, (hnumber.1 _ rfl).2.2.2,
    (hempty.1 _ rfl).2.2.1 [(.text "age", .int 19)] _ rfl, _, (hfault.2 _ rfl).2.2⟩

/-- A text that names a column restricts the query, but neither the deletion nor the update nor the
pipeline. -/
theorem restriction_find_text_ne :
    (ofUsers.find (.text "name")).bind Query.compile =
        .ok ⟨"SELECT * FROM `users` WHERE `name` IS NULL", []⟩ ∧
      compileDelete ofUsers.dialect ofUsers.table (.text "name") false =
        .ok ⟨"DELETE FROM `users`", []⟩ ∧
      compileUpdate ofUsers.dialect ofUsers.table [(.text "age", .int 19)] (.text "name") false =
        .ok ⟨"UPDATE `users` SET `age` = ?", [.int 19]⟩ ∧
      compilePipeline ofUsers.dialect ofUsers.table (.list [entryOf "$match" (.text "name")]) =
        .ok ⟨"SELECT * FROM `users`", []⟩ := by
  refine ⟨?_, rfl, rfl, rfl⟩
  rw [find_text (by decide)]
  exact Query.compile_filtered ofUsers.dialect ofUsers.table _

end Model
end DocTable
