/-
# Chains of calls as pipelines

A chain of calls on a fresh query says the same as the pipeline with one stage for each call. The
two gather their parts in different states: a query keeps its sort keys and bounds as they were
given, a pipeline keeps expressions and numbers. What each call and its stage keep is that the one
state mirrors the other; so both end in the same statement, or in the same fault.

The condition that a filter leaves in a selection is the one it leaves in an update and a deletion.
-/
import DocTable.Proofs.Steps
import DocTable.Query.Builder
import DocTable.Query.Pipeline
import DocTable.Query.Write

namespace DocTable

/-! ## The stage of a call -/

namespace Query

/-- The mapping of one text to a value. -/
def entryOf (key : String) (value : Value) : Value := .map [(.text key, value)]

/-- The stage that compares what is found at a path with an operand. -/
def comparisonStage (comparison path : String) (operand : Value) : Value :=
  entryOf "$match" (entryOf path (entryOf comparison operand))

/-- The stages that say what the calls of methods with their arguments say: a comparison by a method
is a comparison by name, and a method without its last argument has the default for it. -/
inductive HasStage : String × List Value → Value → Prop
  | whereMap (conditions : Entries) :
      HasStage ("where", [.map conditions]) (entryOf "$match" (.map conditions))
  | whereNull (path : String) :
      HasStage ("where", [.text path]) (comparisonStage "$eq" path .null)
  | whereEqual (path : String) (operand : Value) :
      HasStage ("where", [.text path, operand]) (comparisonStage "$eq" path operand)
  | equals (path : String) (operand : Value) :
      HasStage ("equals", [.text path, operand]) (comparisonStage "$eq" path operand)
  | ne (path : String) (operand : Value) :
      HasStage ("ne", [.text path, operand]) (comparisonStage "$ne" path operand)
  | memberOf (path : String) (operand : Value) :
      HasStage ("in_", [.text path, operand]) (comparisonStage "$in" path operand)
  | lte (path : String) (operand : Value) :
      HasStage ("lte", [.text path, operand]) (comparisonStage "$lte" path operand)
  | gte (path : String) (operand : Value) :
      HasStage ("gte", [.text path, operand]) (comparisonStage "$gte" path operand)
  | regex (path : String) (operand : Value) :
      HasStage ("regex", [.text path, operand]) (comparisonStage "$regex" path operand)
  | sortAscending (path : String) :
      HasStage ("sort", [.text path]) (entryOf "$sort" (entryOf path (.text "asc")))
  | sort (path : String) (direction : Value) :
      HasStage ("sort", [.text path, direction]) (entryOf "$sort" (entryOf path direction))
  | limit (count : Int) : HasStage ("limit", [.int count]) (entryOf "$limit" (.int count))
  | skip (count : Int) : HasStage ("skip", [.int count]) (entryOf "$skip" (.int count))

/-! ## Mirrored states -/

/-- A bound as a query keeps it. -/
def boundValue : Option Int → Value
  | none => .null
  | some n => .int n

/-- A query of a table mirrors the state of a pipeline: they have gathered the same parts. -/
structure Mirrors (d : Dialect) (table : String) (q : Query) (s : Pipeline.State) : Prop where
  dialect : q.dialect = d
  table : q.table = .text table
  columns : s.columns = []
  conditions : q.conditions = s.conditions
  grouping : s.grouping = []
  order : (q.sortKeys.map fun key => compileSort d key.1 key.2) = s.order
  limit : q.limit = boundValue s.limit
  offset : q.skip = boundValue s.offset

variable {d : Dialect} {table : String} {q : Query} {s : Pipeline.State}

lemma mirrors_start (d : Dialect) (table : String) :
    Mirrors d table (fresh d (.text table)) .start :=
  ⟨rfl, rfl, rfl, rfl, rfl, rfl, rfl, rfl⟩

lemma orElse_empty (table : String) : (Value.text table).orElse (.text "") = .text table := by
  by_cases h : table = ""
  · subst h
    rfl
  · have htruthy : (Value.text table).isTruthy = true := by simp [Value.isTruthy, h]
    rw [Value.orElse, if_pos htruthy]

lemma limitOffset_boundValue (d : Dialect) (limit offset : Option Int) :
    d.limitOffset (boundValue limit) (boundValue offset) = d.boundsText limit offset := by
  cases limit <;> cases offset <;>
    simp [Dialect.limitOffset, Dialect.boundsText, Dialect.bound, boundValue, Value.whole]

/-- States that mirror one another make the same statement. -/
lemma Mirrors.compile_eq (h : Mirrors d table q s) :
    q.compile = (do return (← s.selection d).statement table) := by
  rw [compile, Pipeline.State.selection, h.dialect, h.table, h.limit, h.offset, orElse_empty,
    limitOffset_boundValue, h.conditions, h.order, h.columns, h.grouping]
  cases d.boundsText s.limit s.offset <;> rfl

/-- The stages that a list spells, one for each of its elements. -/
lemma stages_list (stages : List Value) :
    Pipeline.stages (.list stages) = .ok (stages.map Pipeline.Stage.ofValue) := by
  cases stages <;> rfl

/-! ## Calls and their stages -/

/-- Clauses that a call adds are added by a stage that has the same ones. -/
lemma Mirrors.addClauses (h : Mirrors d table q s) {clauses : Except Fault (List Statement)}
    {conditions : Entries} (hclauses : compileFilter d (.map conditions) = clauses) :
    EndAlike (Mirrors d table)
      (do return { q with conditions := q.conditions ++ (← clauses) })
      (s.step d (.filter conditions)) := by
  rw [Pipeline.State.step, hclauses]
  cases clauses with
  | error fault => exact .error fault
  | ok added => exact .ok { h with conditions := congrArg (· ++ added) h.conditions }

/-- The name of a comparison in a document of comparisons. -/
def comparisonName : Operator → String
  | .equal => "$eq"
  | .notEqual => "$ne"
  | .memberOf => "$in"
  | .atMost => "$lte"
  | .atLeast => "$gte"
  | .matching => "$regex"

lemma resolve?_comparisonName (op : Operator) :
    Operator.resolve? (.text (comparisonName op)) = some op := by
  cases op <;> decide +kernel

lemma isMarkedName_comparisonName (op : Operator) :
    Operator.isMarkedName (.text (comparisonName op)) = true := by
  cases op <;> rfl

/-- The filter of one comparison has the clause of that comparison. -/
lemma compileFilter_comparison (d : Dialect) (op : Operator) (path : String) (operand : Value) :
    compileFilter d (entryOf path (entryOf (comparisonName op) operand)) =
      (do return (← compileCondition d (.text path) (.operator op) operand).toList) := by
  have hconditions : conditionsOf (entryOf path (entryOf (comparisonName op) operand)) =
      [(.text path, .text (comparisonName op), operand)] := by
    simp [entryOf, conditionsOf, comparisonsOf, Operator.isDocument, isMarkedName_comparisonName]
  have hclause : compileCondition d (.text path) (.text (comparisonName op)) operand =
      compileCondition d (.text path) (.operator op) operand := by
    have hoperator : Operator.resolve? (.operator op) = some op := rfl
    simp only [compileCondition, resolve?_comparisonName, hoperator]
  rw [compileFilter, hconditions, compileConditions, hclause]
  cases compileCondition d (.text path) (.operator op) operand with
  | error fault => rfl
  | ok clause => simp [compileConditions]

/-- A comparison by its method does what the stage of its name does. -/
lemma Mirrors.addComparison (h : Mirrors d table q s) (op : Operator) (path : String)
    (operand : Value) :
    EndAlike (Mirrors d table) (q.apply (.compare op (.text path) operand))
      (s.step d (.ofValue (comparisonStage (comparisonName op) path operand))) := by
  have hstage : Pipeline.Stage.ofValue (comparisonStage (comparisonName op) path operand) =
      .filter [(.text path, entryOf (comparisonName op) operand)] := rfl
  have happly : q.apply (.compare op (.text path) operand) =
      (do return { q with conditions := q.conditions ++
        (← (do return (← compileCondition d (.text path) (.operator op) operand).toList)) }) := by
    rw [apply, Call.clauses, h.dialect]
  rw [hstage, happly]
  exact h.addClauses (compileFilter_comparison d op path operand)

/-- An equality given by its path and its operand is the comparison. -/
lemma apply_filter_text (q : Query) (path : String) (operand : Value) :
    q.apply (.filter (.text path) operand) = q.apply (.compare .equal (.text path) operand) := rfl

lemma Mirrors.addConditions (h : Mirrors d table q s) (conditions : Entries) (value : Value) :
    EndAlike (Mirrors d table) (q.apply (.filter (.map conditions) value))
      (s.step d (.ofValue (entryOf "$match" (.map conditions)))) := by
  have hstage : Pipeline.Stage.ofValue (entryOf "$match" (.map conditions)) =
      .filter conditions := rfl
  have happly : q.apply (.filter (.map conditions) value) =
      (do return { q with conditions := q.conditions ++
        (← compileFilter d (.map conditions)) }) := by
    rw [apply, Call.clauses, h.dialect]
  rw [hstage, happly]
  exact h.addClauses rfl

lemma Mirrors.addSort (h : Mirrors d table q s) (path : String) (direction : Value) :
    EndAlike (Mirrors d table) (q.apply (.sort (.text path) direction))
      (s.step d (.ofValue (entryOf "$sort" (entryOf path direction)))) := by
  have hstage : Pipeline.Stage.ofValue (entryOf "$sort" (entryOf path direction)) =
      .sort [(.text path, direction)] := rfl
  rw [hstage]
  refine .ok { h with conditions := ?_, order := ?_ }
  · simpa using h.conditions
  · simp [h.order]

lemma Mirrors.setLimit (h : Mirrors d table q s) (count : Int) :
    EndAlike (Mirrors d table) (q.apply (.limit (.int count)))
      (s.step d (.ofValue (entryOf "$limit" (.int count)))) := by
  refine .ok { h with conditions := ?_, limit := rfl }
  simpa using h.conditions

lemma Mirrors.setSkip (h : Mirrors d table q s) (count : Int) :
    EndAlike (Mirrors d table) (q.apply (.skip (.int count)))
      (s.step d (.ofValue (entryOf "$skip" (.int count)))) := by
  refine .ok { h with conditions := ?_, offset := rfl }
  simpa using h.conditions

/-- What holds of a call holds of the method that makes it. -/
lemma endAlike_of_named {call : String × List Value} {c : Call} {stage : Value}
    (hcall : Call.named call.1 call.2 = .ok c)
    (hstep : EndAlike (Mirrors d table) (q.apply c) (s.step d (.ofValue stage))) :
    EndAlike (Mirrors d table) ((Call.named call.1 call.2).bind q.apply)
      (s.step d (.ofValue stage)) := by
  rw [hcall]
  exact hstep

/-- A call of a method and its stage keep the states mirrored, or fail alike. -/
lemma Mirrors.step (h : Mirrors d table q s) {call : String × List Value} {stage : Value}
    (hstage : HasStage call stage) :
    EndAlike (Mirrors d table) ((Call.named call.1 call.2).bind q.apply)
      (s.step d (.ofValue stage)) := by
  cases hstage with
  | whereMap conditions => exact endAlike_of_named rfl (h.addConditions conditions .null)
  | whereNull path =>
    refine endAlike_of_named (c := .filter (.text path) .null) rfl ?_
    rw [apply_filter_text]
    exact h.addComparison .equal path .null
  | whereEqual path operand =>
    refine endAlike_of_named (c := .filter (.text path) operand) rfl ?_
    rw [apply_filter_text]
    exact h.addComparison .equal path operand
  | equals path operand => exact endAlike_of_named rfl (h.addComparison .equal path operand)
  | ne path operand => exact endAlike_of_named rfl (h.addComparison .notEqual path operand)
  | memberOf path operand => exact endAlike_of_named rfl (h.addComparison .memberOf path operand)
  | lte path operand => exact endAlike_of_named rfl (h.addComparison .atMost path operand)
  | gte path operand => exact endAlike_of_named rfl (h.addComparison .atLeast path operand)
  | regex path operand => exact endAlike_of_named rfl (h.addComparison .matching path operand)
  | sortAscending path => exact endAlike_of_named rfl (h.addSort path (.text "asc"))
  | sort path direction => exact endAlike_of_named rfl (h.addSort path direction)
  | limit count => exact endAlike_of_named rfl (h.setLimit count)
  | skip count => exact endAlike_of_named rfl (h.setSkip count)

/-- States that mirror one another end in the same statement or the same fault, whatever calls and
stages follow. -/
lemma Mirrors.run (h : Mirrors d table q s) {calls : List (String × List Value)}
    {stages : List Value} (hstages : List.Forall₂ HasStage calls stages) :
    (do (← q.applyNamed calls).compile) =
      (do return (← (← s.run d (stages.map .ofValue)).selection d).statement table) := by
  induction hstages generalizing q s with
  | nil => exact h.compile_eq
  | @cons call stage calls stages hstage _ ih =>
    rw [applyNamed, List.foldlM_cons, List.map_cons, Pipeline.State.run]
    have hstep := h.step hstage
    revert hstep
    generalize (Call.named call.1 call.2).bind q.apply = next
    generalize s.step d (.ofValue stage) = next'
    intro hstep
    cases hstep with
    | error fault => rfl
    | ok hnext => exact ih hnext

/-! ## The condition of a filter in a write -/

/-- What a query asks of rows, as the clause of a statement with its parameters. -/
def restriction (q : Query) : Statement :=
  let condition := (conjoin q.conditions).getD .empty
  ⟨Dialect.whereClause condition.text, condition.params⟩

/-- The fresh query of a table to which clauses have been added. -/
def filtered (d : Dialect) (table : String) (clauses : List Statement) : Query :=
  { fresh d (.text table) with conditions := clauses }

lemma applyNamed_where (d : Dialect) (table : String) (conditions : Entries) :
    (fresh d (.text table)).applyNamed [("where", [.map conditions])] =
      (compileFilter d (.map conditions)).map (filtered d table) := by
  have hcall : Call.named "where" [.map conditions] = .ok (.filter (.map conditions) .null) := rfl
  have hclauses : (Call.filter (.map conditions) .null).clauses d =
      compileFilter d (.map conditions) := rfl
  have hdialect : (fresh d (.text table)).dialect = d := rfl
  simp only [applyNamed, List.foldlM_cons, List.foldlM_nil, hcall, Except.bind, apply, hdialect,
    hclauses]
  cases compileFilter d (.map conditions) <;> rfl

/-- A selection with nothing but a condition. -/
lemma compile_filtered (d : Dialect) (table : String) (clauses : List Statement) :
    (filtered d table clauses).compile =
      .ok ⟨"SELECT * FROM " ++ Dialect.quote table ++ (filtered d table clauses).restriction.text,
        (filtered d table clauses).restriction.params⟩ := by
  have hbounds : d.limitOffset .null .null = .ok "" := by cases d; rfl
  have htext : ("SELECT " ++ "*" ++ " FROM ") = "SELECT * FROM " := by decide
  have hempty : "".isEmpty = true := rfl
  simp only [compile, filtered, fresh, orElse_empty, hbounds, Value.identifier, ok_bind, pure_eq_ok,
    Selection.statement, Selection.listClause, List.map_nil, List.isEmpty_nil, if_true,
    hempty, String.append_empty, htext, restriction]

lemma compileDelete_filtered {d : Dialect} {conditions : Value} {clauses : List Statement}
    (table : String) (h : compileFilter d conditions = .ok clauses) :
    compileDelete d table conditions false =
      .ok ⟨"DELETE FROM " ++ Dialect.quote table ++ (filtered d table clauses).restriction.text,
        (filtered d table clauses).restriction.params⟩ := by
  rw [compileDelete, compileWhere, h]
  rfl

lemma compileUpdate_filtered {d : Dialect} {conditions : Value} {clauses : List Statement}
    (table : String) (h : compileFilter d conditions = .ok clauses)
    {pairs : List (Value × Value)} {assignments : String}
    (hpairs : quotedNames pairs " = ?" = .ok assignments) :
    compileUpdate d table pairs conditions false =
      .ok ⟨"UPDATE " ++ Dialect.quote table ++ " SET " ++ assignments
          ++ (filtered d table clauses).restriction.text,
        pairs.map Prod.snd ++ (filtered d table clauses).restriction.params⟩ := by
  rw [compileUpdate, hpairs, compileWhere, h]
  rfl

/-- A chain of calls on a fresh query compiles to the statement of the pipeline with the stages of
its calls, or both fail in the same way. The condition of a selection by a filter, with its
parameters, is that of the update and of the deletion by this filter, and these fail where the
filter cannot be added. -/
theorem compile_chain (d : Dialect) (table : String) :
    (∀ (calls : List (String × List Value)) (stages : List Value),
      List.Forall₂ HasStage calls stages →
      ((fresh d (.text table)).applyNamed calls >>= Query.compile) =
        compilePipeline d table (.list stages)) ∧
    (∀ (conditions : Entries) (q : Query),
      (fresh d (.text table)).applyNamed [("where", [.map conditions])] = .ok q →
      q.compile = .ok ⟨"SELECT * FROM " ++ Dialect.quote table ++ q.restriction.text,
        q.restriction.params⟩ ∧
      compileDelete d table (.map conditions) false =
        .ok ⟨"DELETE FROM " ++ Dialect.quote table ++ q.restriction.text, q.restriction.params⟩ ∧
      ∀ pairs assignments, quotedNames pairs " = ?" = .ok assignments →
        compileUpdate d table pairs (.map conditions) false =
          .ok ⟨"UPDATE " ++ Dialect.quote table ++ " SET " ++ assignments ++ q.restriction.text,
            pairs.map Prod.snd ++ q.restriction.params⟩) ∧
    (∀ (conditions : Entries) (fault : Fault),
      (fresh d (.text table)).applyNamed [("where", [.map conditions])] = .error fault →
      compileDelete d table (.map conditions) false = .error fault ∧
      ∀ pairs assignments, quotedNames pairs " = ?" = .ok assignments →
        compileUpdate d table pairs (.map conditions) false = .error fault) := by
  refine ⟨?_, ?_, ?_⟩
  · intro calls stages hstages
    rw [(mirrors_start d table).run hstages, compilePipeline, stages_list]
    rfl
  · intro conditions q hq
    rw [applyNamed_where, map_eq_ok_iff] at hq
    obtain ⟨clauses, hclauses, rfl⟩ := hq
    exact ⟨compile_filtered d table clauses, compileDelete_filtered table hclauses,
      fun pairs assignments hpairs => compileUpdate_filtered table hclauses hpairs⟩
  · intro conditions fault hfault
    rw [applyNamed_where] at hfault
    cases hclauses : compileFilter d (.map conditions) with
    | ok clauses => rw [hclauses] at hfault; cases hfault
    | error other =>
      rw [hclauses] at hfault
      cases hfault
      refine ⟨?_, fun pairs assignments hpairs => ?_⟩
      · rw [compileDelete, compileWhere, hclauses]
        rfl
      · rw [compileUpdate, hpairs, compileWhere, hclauses]
        rfl

/-- A filter, comparisons of three kinds, sort keys, and bounds of which one is set twice. -/
theorem compile_chain_adults :
    ((fresh .standard (.text "users")).applyNamed
        [("limit", [.int 5]), ("where", [.map [(.text "active", .bool true)]]),
         ("sort", [.text "name", .int (-1)]), ("gte", [.text "age", .int 18]),
         ("in_", [.text "tags", .list []]), ("ne", [.text "email", .null]),
         ("sort", [.text "id"]), ("limit", [.int 10]), ("skip", [.int 20])] >>= Query.compile) =
      compilePipeline .standard "users"
        (.list [entryOf "$limit" (.int 5), entryOf "$match" (entryOf "active" (.bool true)),
          entryOf "$sort" (entryOf "name" (.int (-1))), comparisonStage "$gte" "age" (.int 18),
          comparisonStage "$in" "tags" (.list []), comparisonStage "$ne" "email" .null,
          entryOf "$sort" (entryOf "id" (.text "asc")), entryOf "$limit" (.int 10),
          entryOf "$skip" (.int 20)]) ∧
    compileDelete .standard "users" (.map [(.text "age", .int 18)]) false =
      .ok ⟨"DELETE FROM `users` WHERE `age` = ?", [.int 18]⟩ ∧
    compileUpdate .standard "users" [(.text "age", .int 19)] (.map [(.text "age", .int 18)])
        false = .ok ⟨"UPDATE `users` SET `age` = ? WHERE `age` = ?", [.int 19, .int 18]⟩ ∧
    ∃ fault, compileDelete .standard "users"
      (.map [(.text "age", .map [(.tuple [], .null)])]) false = .error fault := by
  have hchain := (compile_chain .standard "users").1 _ _
    (.cons (.limit 5) (.cons (.whereMap [(.text "active", .bool true)])
      (.cons (.sort "name" (.int (-1))) (.cons (.gte "age" (.int 18))
      (.cons (.memberOf "tags" (.list [])) (.cons (.ne "email" .null)
      (.cons (.sortAscending "id") (.cons (.limit 10) (.cons (.skip 20) .nil)))))))))
  have hwhere := (compile_chain .standard "users").2.1 [(.text "age", .int 18)] _ rfl
  have hfault := (compile_chain .standard "users").2.2
    [(.text "age", .map [(.tuple [], .null)])] _ rfl
  exact ⟨hchain, hwhere.2.1, hwhere.2.2 [(.text "age", .int 19)] _ rfl, _, hfault.1⟩

end Query
end DocTable
