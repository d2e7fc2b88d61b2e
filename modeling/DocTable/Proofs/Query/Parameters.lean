/-
# The parameters of conditions

Each operand that conditions bind becomes one parameter, in the order of the conditions. An operand
is encoded on its way, so that no date, no point in time, no sequence and no mapping is left among
the parameters; but the operand of a pattern comparison becomes a parameter as it is, unless it is a
pattern. So the parameters are scalars exactly if the operands of all pattern comparisons are.

A query and a pipeline gather their conditions call by call and stage by stage, and have the
parameters of all of these in the end.
-/
import DocTable.Proofs.Query.Reordering
import DocTable.Proofs.Query.Statements

namespace DocTable

/-! ## Stored forms -/

namespace Value

/-- Whether a value is a date or a point in time. -/
def isTemporal : Value → Bool
  | timestamp _ => true
  | date _ => true
  | _ => false

/-- Whether a value is a sequence or a mapping. -/
def isComposite : Value → Bool
  | list _ => true
  | tuple _ => true
  | set _ => true
  | map _ => true
  | _ => false

/-- Whether a value is neither temporal nor made of others. -/
def isScalar (v : Value) : Bool := !v.isTemporal && !v.isComposite

end Value

/-- A value is stored in a form: temporal values as their texts, sequences and mappings as JSON
texts, and all else as it is. -/
inductive StoredAs : Value → Value → Prop
  | scalar {v : Value} (h : v.isScalar = true) : StoredAs v v
  | timestamp {t : Timestamp} {s : String} (h : Codec.formatTimestamp t = .ok s) :
      StoredAs (.timestamp t) (.text s)
  | date (d : Date) : StoredAs (.date d) (.text (Codec.formatDate d))
  | composite {v : Value} {s : String} (h : v.isComposite = true) (hs : Json.print v = .ok s) :
      StoredAs v (.text s)

lemma StoredAs.isScalar {v form : Value} (h : StoredAs v form) : form.isScalar = true := by
  cases h with
  | scalar h => exact h
  | timestamp _ | date _ | composite _ _ => rfl

/-- What a value is encoded as is its stored form. -/
lemma storedAs_encodeValue {v form : Value} (h : Codec.encodeValue v = .ok form) :
    StoredAs v form := by
  cases v with
  | timestamp t =>
    simp only [Codec.encodeValue, bind_eq_ok_iff, pure_eq_ok, Except.ok.injEq] at h
    obtain ⟨s, hs, rfl⟩ := h
    exact .timestamp hs
  | date d =>
    cases h
    exact .date d
  | list items | tuple items | set items | map entries =>
    simp only [Codec.encodeValue, bind_eq_ok_iff, pure_eq_ok, Except.ok.injEq] at h
    obtain ⟨s, hs, rfl⟩ := h
    exact .composite rfl hs
  | _ =>
    cases h
    exact .scalar rfl

lemma storedAs_encodeEntries {entries stored : List (Value × Value)}
    (h : Codec.encodeEntries entries = .ok stored) :
    List.Forall₂ StoredAs (entries.map Prod.snd) (stored.map Prod.snd) := by
  induction entries generalizing stored with
  | nil =>
    cases h
    exact .nil
  | cons entry entries ih =>
    simp only [Codec.encodeEntries, bind_eq_ok_iff, pure_eq_ok, Except.ok.injEq] at h
    obtain ⟨first, hfirst, rest, hrest, rfl⟩ := h
    exact .cons (storedAs_encodeValue hfirst) (ih hrest)

/-! ## Operands -/

/-- An operand that becomes a parameter. -/
inductive Operand where
  /-- One that is stored. -/
  | stored (v : Value)
  /-- One that is compared with as a pattern. -/
  | pattern (v : Value)

/-- The parameter that an operand becomes. -/
inductive Operand.Becomes : Operand → Value → Prop
  | stored {v form : Value} (h : StoredAs v form) : Becomes (.stored v) form
  | pattern (v : Value) : Becomes (.pattern v) (patternOperand v)

/-- The operands that a comparison binds. -/
def Operator.bound (op : Operator) (operand : Value) : List Operand :=
  match op, operand with
  | .memberOf, _ => (memberOperands operand).map .stored
  | .equal, .null => []
  | .notEqual, .null => []
  | .matching, _ => [.pattern operand]
  | _, _ => [.stored operand]

/-- The operands that a condition binds. -/
def boundOperands (path operator operand : Value) : List Operand :=
  match path, Operator.resolve? operator with
  | .text _, some op => op.bound operand
  | _, _ => []

/-- The operands that conditions bind. -/
def operandsOf (conditions : List (Value × Value × Value)) : List Operand :=
  conditions.flatMap fun condition => boundOperands condition.1 condition.2.1 condition.2.2

lemma operandsOf_append (conditions others : List (Value × Value × Value)) :
    operandsOf (conditions ++ others) = operandsOf conditions ++ operandsOf others :=
  List.flatMap_append

/-- Parameters are those of some operands, in their order. All of them are scalars exactly if those
of the patterns are. -/
structure AreParametersOf (operands : List Operand) (params : List Value) : Prop where
  becomes : List.Forall₂ Operand.Becomes operands params
  scalar_iff : (∀ p ∈ params, p.isScalar = true) ↔
    ∀ v, Operand.pattern v ∈ operands → (patternOperand v).isScalar = true

namespace AreParametersOf

variable {operands others : List Operand} {params rest : List Value}

lemma of_becomes (h : List.Forall₂ Operand.Becomes operands params) :
    AreParametersOf operands params := by
  refine ⟨h, ?_⟩
  induction h with
  | nil => simp
  | cons hfirst _ ih =>
    rw [List.forall_mem_cons, ih]
    cases hfirst with
    | stored h => simp [h.isScalar]
    | pattern v => simp [or_imp, forall_and]

lemma nil : AreParametersOf [] [] := of_becomes .nil

lemma append (h : AreParametersOf operands params) (hrest : AreParametersOf others rest) :
    AreParametersOf (operands ++ others) (params ++ rest) :=
  of_becomes (List.rel_append h.becomes hrest.becomes)

/-- Stored values have their stored forms as parameters. -/
lemma of_storedAs {values : List Value} (h : List.Forall₂ StoredAs values params) :
    AreParametersOf (values.map .stored) params :=
  of_becomes (List.forall₂_map_left_iff.2 (h.imp fun _ _ => .stored))

/-- The parameters of stored values are scalars. -/
lemma isScalar {values : List Value} (h : AreParametersOf (values.map .stored) params) :
    ∀ p ∈ params, p.isScalar = true :=
  h.scalar_iff.2 (by simp)

end AreParametersOf

/-! ## Conditions -/

variable {d : Dialect}

lemma parameters_membershipClause {expression : String} {operands : List Value}
    {clause : Option Statement} (h : membershipClause expression operands = .ok clause) :
    AreParametersOf (operands.map .stored) (clause.toList.flatMap Statement.params) := by
  rw [membershipClause] at h
  split_ifs at h with hempty
  · cases h
    rw [List.isEmpty_iff.1 hempty]
    exact .nil
  · simp only [bind_eq_ok_iff, pure_eq_ok, Except.ok.injEq] at h
    obtain ⟨params, hparams, rfl⟩ := h
    have hstored : List.Forall₂ StoredAs operands params :=
      (mapM_eq_ok_iff.1 hparams).imp fun _ _ => storedAs_encodeValue
    simpa using AreParametersOf.of_storedAs hstored

/-- The parameters of a comparison are those of the operands that it binds. -/
lemma parameters_comparisonClause {expression : String} {op : Operator} {operand : Value}
    {clause : Option Statement} (h : comparisonClause expression op operand = .ok clause) :
    AreParametersOf (op.bound operand) (clause.toList.flatMap Statement.params) := by
  unfold comparisonClause at h
  split at h
  · exact parameters_membershipClause h
  · cases h
    exact .nil
  · cases h
    exact .nil
  · cases h
    exact .of_becomes (.cons (.pattern _) .nil)
  · rename_i hmember hequal hnotEqual hmatching
    simp only [bind_eq_ok_iff, pure_eq_ok, Except.ok.injEq] at h
    obtain ⟨param, hparam, rfl⟩ := h
    have hbound : op.bound operand = [.stored operand] := by
      unfold Operator.bound
      split <;> simp_all
    rw [hbound]
    exact .of_storedAs (.cons (storedAs_encodeValue hparam) .nil)

lemma parameters_compileCondition {path operator operand : Value} {clause : Option Statement}
    (h : compileCondition d path operator operand = .ok clause) :
    AreParametersOf (boundOperands path operator operand)
      (clause.toList.flatMap Statement.params) := by
  cases path with
  | text path =>
    cases hop : Operator.resolve? operator with
    | none =>
      have hnone : boundOperands (.text path) operator operand = [] := by
        simp only [boundOperands, hop]
      simp only [compileCondition, hop] at h
      cases h
      rw [hnone]
      exact .nil
    | some op =>
      simp only [compileCondition, hop] at h
      simpa only [boundOperands, hop] using parameters_comparisonClause h
  | _ =>
    cases h
    exact .nil

/-- The parameters of conditions are those of the operands that they bind. -/
lemma parameters_compileConditions {conditions : List (Value × Value × Value)}
    {clauses : List Statement} (h : compileConditions d conditions = .ok clauses) :
    AreParametersOf (operandsOf conditions) (clauses.flatMap Statement.params) := by
  induction conditions generalizing clauses with
  | nil =>
    cases h
    exact .nil
  | cons condition conditions ih =>
    obtain ⟨path, operator, operand⟩ := condition
    simp only [compileConditions, bind_eq_ok_iff, pure_eq_ok, Except.ok.injEq] at h
    obtain ⟨clause, hclause, rest, hrest, rfl⟩ := h
    rw [List.flatMap_append]
    exact (parameters_compileCondition hclause).append (ih hrest)

/-- Conditions that are added to others add the parameters of their operands. -/
lemma AreParametersOf.add {operands : List Operand} {before clauses next : List Statement}
    {conditions : List (Value × Value × Value)}
    (h : AreParametersOf operands (before.flatMap Statement.params))
    (hclauses : compileConditions d conditions = .ok clauses) (hnext : next = before ++ clauses) :
    AreParametersOf (operands ++ operandsOf conditions) (next.flatMap Statement.params) := by
  rw [hnext, List.flatMap_append]
  exact h.append (parameters_compileConditions hclauses)

lemma parameters_compileWhere {conditions : Value} {condition : Statement}
    (h : compileWhere d conditions = .ok condition) :
    AreParametersOf (operandsOf (conditionsOf conditions)) condition.params := by
  simp only [compileWhere, bind_eq_ok_iff, pure_eq_ok, Except.ok.injEq] at h
  obtain ⟨clauses, hclauses, rfl⟩ := h
  rw [params_conjoined]
  exact parameters_compileConditions hclauses

/-! ## Deletions and updates -/

lemma parameters_compileDelete {table : String} {conditions : Value} {single : Bool}
    {s : Statement} (h : compileDelete d table conditions single = .ok s) :
    AreParametersOf (operandsOf (conditionsOf conditions)) s.params := by
  simp only [compileDelete, bind_eq_ok_iff, pure_eq_ok, Except.ok.injEq] at h
  obtain ⟨condition, hcondition, rfl⟩ := h
  have hwhere := parameters_compileWhere hcondition
  exact hwhere

/-- The parameters of an update of encoded values are those of the values and then those of the
conditions. -/
lemma parameters_compileUpdate {table : String} {entries pairs : List (Value × Value)}
    {conditions : Value} {single : Bool} {s : Statement}
    (hpairs : Codec.encodeEntries entries = .ok pairs)
    (h : compileUpdate d table pairs conditions single = .ok s) :
    AreParametersOf ((entries.map Prod.snd).map .stored ++ operandsOf (conditionsOf conditions))
      s.params := by
  simp only [compileUpdate, bind_eq_ok_iff, pure_eq_ok, Except.ok.injEq] at h
  obtain ⟨_, -, condition, hcondition, rfl⟩ := h
  exact (AreParametersOf.of_storedAs (storedAs_encodeEntries hpairs)).append
    (parameters_compileWhere hcondition)

lemma params_compileInsert {table : String} {pairs : List (Value × Value)} {s : Statement}
    (h : compileInsert d table pairs = .ok s) : s.params = pairs.map Prod.snd := by
  rw [compileInsert] at h
  split_ifs at h with hempty
  · cases h
    rw [List.isEmpty_iff.1 hempty]
    rfl
  · simp only [bind_eq_ok_iff, pure_eq_ok, Except.ok.injEq] at h
    obtain ⟨columns, -, rfl⟩ := h
    rfl

/-! ## Queries -/

namespace Query

/-- Calls add the parameters of their conditions to those of the query. -/
lemma parameters_foldlM {calls : List Call} {q final : Query} {operands : List Operand}
    (hq : AreParametersOf operands (q.conditions.flatMap Statement.params))
    (h : calls.foldlM apply q = .ok final) :
    AreParametersOf (operands ++ operandsOf (calls.flatMap Call.conditions))
      (final.conditions.flatMap Statement.params) := by
  induction calls generalizing q operands with
  | nil =>
    cases h
    simpa [operandsOf] using hq
  | cons c calls ih =>
    rw [List.foldlM_cons, bind_eq_ok_iff] at h
    obtain ⟨next, happly, hcalls⟩ := h
    obtain ⟨clauses, hclauses, hnext⟩ := conditions_apply happly
    rw [Call.clauses_eq] at hclauses
    rw [List.flatMap_cons, operandsOf_append, ← List.append_assoc]
    exact ih (hq.add hclauses hnext) hcalls

lemma params_compile {q : Query} {s : Statement} (h : q.compile = .ok s) :
    s.params = q.conditions.flatMap Statement.params := by
  simp only [compile, bind_eq_ok_iff, pure_eq_ok, Except.ok.injEq] at h
  obtain ⟨_, -, _, -, rfl⟩ := h
  exact params_conjoined q.conditions

/-- The parameters of a query are those of the conditions of its calls. -/
lemma parameters_compile {table : Value} {calls : List Call} {q : Query} {s : Statement}
    (hq : calls.foldlM apply (Query.fresh d table) = .ok q) (h : q.compile = .ok s) :
    AreParametersOf (operandsOf (calls.flatMap Call.conditions)) s.params := by
  rw [params_compile h]
  simpa using parameters_foldlM .nil hq

end Query

/-! ## Pipelines -/

namespace Pipeline

/-- The conditions that a stage adds. -/
def Stage.conditions : Stage → List (Value × Value × Value)
  | .filter conditions => conditionsOf (.map conditions)
  | _ => []

namespace State

variable {s next final : State} {stage : Stage} {stages : List Stage}

/-- A stage adds the clauses of its conditions. -/
lemma conditions_step (h : s.step d stage = .ok next) :
    ∃ clauses, compileConditions d stage.conditions = .ok clauses ∧
      next.conditions = s.conditions ++ clauses := by
  by_cases hfilter : stage.part? = some .conditions
  · cases stage with
    | filter conditions =>
      simp only [step, bind_eq_ok_iff, pure_eq_ok, Except.ok.injEq] at h
      obtain ⟨clauses, hclauses, rfl⟩ := h
      exact ⟨clauses, hclauses, rfl⟩
    | _ => cases hfilter
  · have honly : next.only .conditions = s.only .conditions := only_step_of_ne h hfilter
    have hkept : next.conditions = s.conditions := by
      simpa only [only] using congrArg State.conditions honly
    cases stage with
    | filter conditions => exact absurd rfl hfilter
    | _ => exact ⟨[], rfl, by rw [hkept, List.append_nil]⟩

/-- Stages add the parameters of their conditions to those gathered before. -/
lemma parameters_run {operands : List Operand}
    (hs : AreParametersOf operands (s.conditions.flatMap Statement.params))
    (h : s.run d stages = .ok final) :
    AreParametersOf (operands ++ operandsOf (stages.flatMap Stage.conditions))
      (final.conditions.flatMap Statement.params) := by
  induction stages generalizing s operands with
  | nil =>
    cases h
    simpa [operandsOf] using hs
  | cons stage stages ih =>
    rw [run, bind_eq_ok_iff] at h
    obtain ⟨next, hstep, hrun⟩ := h
    obtain ⟨clauses, hclauses, hnext⟩ := conditions_step hstep
    rw [List.flatMap_cons, operandsOf_append, ← List.append_assoc]
    exact ih (hs.add hclauses hnext) hrun

lemma params_statement {table : String} {statement : Statement}
    (h : s.statement d table = .ok statement) :
    statement.params = s.conditions.flatMap Statement.params := by
  simp only [State.statement, selection, bind_eq_ok_iff, pure_eq_ok, Except.ok.injEq] at h
  obtain ⟨_, ⟨_, -, rfl⟩, rfl⟩ := h
  exact params_conjoined s.conditions

end State

/-- The parameters of a pipeline are those of the conditions of its stages. -/
lemma parameters_compilePipeline {table : String} {pipeline : Value} {s : Statement}
    (h : compilePipeline d table pipeline = .ok s) :
    ∃ sequence, stages pipeline = .ok sequence ∧
      AreParametersOf (operandsOf (sequence.flatMap Stage.conditions)) s.params := by
  obtain ⟨sequence, final, hsequence, hrun, hstatement⟩ := compilePipeline_eq_ok_iff.1 h
  refine ⟨sequence, hsequence, ?_⟩
  rw [State.params_statement hstatement]
  simpa using State.parameters_run .nil hrun

end Pipeline
end DocTable
