/-
# Pipelines in another order

What a stage makes of a selection is determined by the stage and by what earlier stages have put
into the same part of it. So each part is left as the stages of that part alone would leave it, and
the stages of a pipeline may be reordered in every way that keeps the order among those of one part.
The parts are the filters, the sort keys, the limit, the offset, and the columns: projections and
groupings replace each other's select list. What is passed over may stand anywhere.
-/
import DocTable.Proofs.Query.Compilable

namespace DocTable
namespace Pipeline

open Query (entryOf)

variable {d : Dialect}

/-! ## Parts of a selection -/

/-- The parts of a selection that stages set independently of each other. -/
inductive Part where
  /-- The select list and the grouping expressions. -/
  | columns
  /-- The clauses of all filters. -/
  | conditions
  /-- The sort keys. -/
  | order
  /-- The limit. -/
  | limit
  /-- The offset. -/
  | offset
deriving DecidableEq

/-- The part that a stage sets; none for what is passed over. -/
def Stage.part? : Stage → Option Part
  | .filter _ => some .conditions
  | .project _ => some .columns
  | .group _ => some .columns
  | .sort _ => some .order
  | .limit _ => some .limit
  | .skip _ => some .offset
  | .unknown => none

namespace State

/-- One part of a state, with nothing else gathered. -/
def only (s : State) : Part → State
  | .columns => { start with columns := s.columns, grouping := s.grouping }
  | .conditions => { start with conditions := s.conditions }
  | .order => { start with order := s.order }
  | .limit => { start with limit := s.limit }
  | .offset => { start with offset := s.offset }

variable {s t next final : State} {stage : Stage} {stages : List Stage} {part : Part}

@[simp] lemma only_start (part : Part) : start.only part = start := by
  cases part <;> rfl

/-- A state is determined by its parts. -/
lemma eq_of_only_eq (h : ∀ part, s.only part = t.only part) : s = t := by
  have hcolumns := h .columns
  have hconditions := h .conditions
  have horder := h .order
  have hlimit := h .limit
  have hoffset := h .offset
  cases s
  cases t
  simp only [only, mk.injEq, true_and, and_true] at hcolumns hconditions horder hlimit hoffset
  rw [hcolumns.1, hcolumns.2, hconditions, horder, hlimit, hoffset]

/-! ## Runs of the stages of one part -/

/-- A run over one sequence after another. -/
lemma run_append_eq_ok_iff {others : List Stage} :
    s.run d (stages ++ others) = .ok final ↔
      ∃ between, s.run d stages = .ok between ∧ between.run d others = .ok final := by
  induction stages generalizing s with
  | nil => simp [run]
  | cons stage stages ih =>
    simp only [List.cons_append, run, bind_eq_ok_iff, ih]
    constructor
    · rintro ⟨next, hstep, between, hrun, hrest⟩
      exact ⟨between, ⟨next, hstep, hrun⟩, hrest⟩
    · rintro ⟨between, ⟨next, hstep, hrun⟩, hrest⟩
      exact ⟨next, hstep, between, hrun, hrest⟩

/-- A stage leaves all parts but its own. -/
lemma only_step_of_ne (h : s.step d stage = .ok next) (hpart : stage.part? ≠ some part) :
    next.only part = s.only part := by
  cases stage with
  | filter conditions =>
    simp only [step, bind_eq_ok_iff, pure_eq_ok, Except.ok.injEq] at h
    obtain ⟨clauses, -, rfl⟩ := h
    cases part <;> first | rfl | exact absurd rfl hpart
  | project spec =>
    simp only [step, bind_eq_ok_iff, pure_eq_ok, Except.ok.injEq] at h
    obtain ⟨columns, -, rfl⟩ := h
    cases part <;> split_ifs <;> first | rfl | exact absurd rfl hpart
  | group spec =>
    simp only [step, bind_eq_ok_iff, pure_eq_ok, Except.ok.injEq] at h
    obtain ⟨grouping, -, rfl⟩ := h
    cases part <;> split_ifs <;> first | rfl | exact absurd rfl hpart
  | sort keys =>
    cases h
    cases part <;> first | rfl | exact absurd rfl hpart
  | limit count =>
    simp only [step, bind_eq_ok_iff, pure_eq_ok, Except.ok.injEq] at h
    obtain ⟨n, -, rfl⟩ := h
    cases part <;> first | rfl | exact absurd rfl hpart
  | skip count =>
    simp only [step, bind_eq_ok_iff, pure_eq_ok, Except.ok.injEq] at h
    obtain ⟨n, -, rfl⟩ := h
    cases part <;> first | rfl | exact absurd rfl hpart
  | unknown =>
    cases h
    rfl

/-- What a stage makes of its own part depends on no other part. -/
lemma only_step_of_eq (h : s.step d stage = .ok next) (hpart : stage.part? = some part) :
    (s.only part).step d stage = .ok (next.only part) := by
  cases stage with
  | filter conditions =>
    simp only [step, bind_eq_ok_iff, pure_eq_ok, Except.ok.injEq] at h
    obtain ⟨clauses, hclauses, rfl⟩ := h
    cases hpart
    rw [step, hclauses]
    rfl
  | project spec =>
    simp only [step, bind_eq_ok_iff, pure_eq_ok, Except.ok.injEq] at h
    obtain ⟨columns, hcolumns, rfl⟩ := h
    cases hpart
    rw [step, hcolumns, ok_bind]
    split_ifs <;> rfl
  | group spec =>
    simp only [step, bind_eq_ok_iff, pure_eq_ok, Except.ok.injEq] at h
    obtain ⟨grouping, hgrouping, rfl⟩ := h
    cases hpart
    rw [step, hgrouping, ok_bind]
    split_ifs <;> rfl
  | sort keys =>
    cases h
    cases hpart
    rfl
  | limit count =>
    simp only [step, bind_eq_ok_iff, pure_eq_ok, Except.ok.injEq] at h
    obtain ⟨n, hn, rfl⟩ := h
    cases hpart
    rw [step, hn]
    rfl
  | skip count =>
    simp only [step, bind_eq_ok_iff, pure_eq_ok, Except.ok.injEq] at h
    obtain ⟨n, hn, rfl⟩ := h
    cases hpart
    rw [step, hn]
    rfl
  | unknown => cases hpart

/-- A run leaves in each part what the stages of that part alone would leave there. -/
lemma only_run (h : s.run d stages = .ok final) (part : Part) :
    (s.only part).run d (stages.filter fun stage => stage.part? = some part) =
      .ok (final.only part) := by
  induction stages generalizing s with
  | nil =>
    cases h
    rfl
  | cons stage stages ih =>
    rw [run, bind_eq_ok_iff] at h
    obtain ⟨next, hstep, hrun⟩ := h
    have hrest := ih hrun
    by_cases hpart : stage.part? = some part
    · have hown := only_step_of_eq hstep hpart
      rw [List.filter_cons_of_pos (by simpa using hpart), run, hown]
      exact hrest
    · have hothers := only_step_of_ne hstep hpart
      rw [List.filter_cons_of_neg (by simpa using hpart), ← hothers]
      exact hrest

end State

/-! ## Reordered pipelines -/

/-- The elements of a pipeline that are stages of a part, in their order. -/
def stagesOf (part : Part) (items : List Value) : List Value :=
  items.filter fun item => (Stage.ofValue item).part? = some part

lemma map_ofValue_stagesOf (part : Part) (items : List Value) :
    (stagesOf part items).map Stage.ofValue =
      (items.map Stage.ofValue).filter fun stage => stage.part? = some part := by
  rw [List.filter_map]
  rfl

/-- Runs from the start leave the same in a part if they have the same stages of it in the same
order. -/
lemma only_eq_of_stagesOf_eq {items others : List Value} {final other : State} {part : Part}
    (hrun : State.start.run d (items.map Stage.ofValue) = .ok final)
    (hother : State.start.run d (others.map Stage.ofValue) = .ok other)
    (h : stagesOf part others = stagesOf part items) : other.only part = final.only part := by
  have hpart := State.only_run hrun part
  have hpart' := State.only_run hother part
  rw [State.only_start, ← map_ofValue_stagesOf] at hpart hpart'
  rw [h, hpart] at hpart'
  exact (Except.ok.inj hpart').symm

/-- There is a state after the stages of a pipeline exactly if each of them compiles. -/
lemma exists_run_iff {items : List Value} :
    (∃ final, State.start.run d (items.map Stage.ofValue) = .ok final) ↔
      ∀ item ∈ items, (Stage.ofValue item).compiles = true := by
  refine succeeds_run_iff.trans ?_
  rw [List.forall_mem_map]

/-- What is passed over compiles. -/
lemma compiles_of_part?_eq_none {stage : Stage} (h : stage.part? = none) :
    stage.compiles = true := by
  cases stage <;> first | rfl | cases h

/-- Whatever is iterated over, its elements are the stages of a pipeline. -/
lemma stages_of_elements {pipeline : Value} {items : List Value}
    (h : pipeline.elements? = some items) :
    stages pipeline = .ok (items.map Stage.ofValue) := by
  rw [stages]
  split_ifs with htruthy
  · rw [h]
  · -- of what has elements only what has none of them counts as false
    have hnone : items = [] := by
      cases pipeline with
      | text s =>
        have hempty : s = "" := by simpa [Value.isTruthy] using htruthy
        subst hempty
        exact (Option.some.inj h).symm
      | _ => simp_all [Value.elements?, Value.isTruthy]
    rw [hnone]
    rfl

/-- The statement that a state makes of a table. -/
def State.statement (d : Dialect) (table : String) (s : State) : Except Fault Statement := do
  return (← s.selection d).statement table

/-- A pipeline compiles to the statement of the state after its stages. -/
lemma compilePipeline_of_run {pipeline : Value} {items : List Value} {final : State}
    (table : String) (hitems : pipeline.elements? = some items)
    (hrun : State.start.run d (items.map Stage.ofValue) = .ok final) :
    compilePipeline d table pipeline = final.statement d table := by
  rw [compilePipeline, stages_of_elements hitems, ok_bind, hrun]
  rfl

/-- What a pipeline compiles to is the statement of the state after its stages. -/
lemma compilePipeline_eq_ok_iff {table : String} {pipeline : Value} {s : Statement} :
    compilePipeline d table pipeline = .ok s ↔
      ∃ sequence final, stages pipeline = .ok sequence ∧
        State.start.run d sequence = .ok final ∧ final.statement d table = .ok s := by
  simp only [compilePipeline, State.statement, bind_eq_ok_iff]
  constructor
  · rintro ⟨sequence, hsequence, final, hrun, hstatement⟩
    exact ⟨sequence, final, hsequence, hrun, hstatement⟩
  · rintro ⟨sequence, final, hsequence, hrun, hstatement⟩
    exact ⟨sequence, hsequence, final, hrun, hstatement⟩

/-- A pipeline whose stages all compile can be reordered as long as the stages of each part keep
their order among each other, and stays the same statement, or the same fault where a bound that is
left has too many digits. Elements that are passed over may stand anywhere, and be left out. -/
theorem compilePipeline_reordered (d : Dialect) (table : String) {pipeline reordered : Value}
    {items others : List Value} {final : State} (hitems : pipeline.elements? = some items)
    (hothers : reordered.elements? = some others)
    (hrun : State.start.run d (items.map Stage.ofValue) = .ok final)
    (hparts : ∀ part, stagesOf part others = stagesOf part items) :
    compilePipeline d table reordered = compilePipeline d table pipeline := by
  have hall := exists_run_iff.1 ⟨final, hrun⟩
  have hcompiles : ∀ item ∈ others, (Stage.ofValue item).compiles = true := by
    intro item hitem
    cases hpart : (Stage.ofValue item).part? with
    | none => exact compiles_of_part?_eq_none hpart
    | some part =>
      have hmem : item ∈ stagesOf part others := List.mem_filter.2 ⟨hitem, by simpa using hpart⟩
      rw [hparts part] at hmem
      exact hall item (List.mem_filter.1 hmem).1
  obtain ⟨other, hother⟩ := (exists_run_iff (d := d)).2 hcompiles
  have hsame : other = final :=
    State.eq_of_only_eq fun part => only_eq_of_stagesOf_eq hrun hother (hparts part)
  rw [compilePipeline_of_run table hitems hrun, compilePipeline_of_run table hothers hother, hsame]

/-- Filters with a limit between them, and then a grouping, a sort and an offset. -/
theorem compilePipeline_reordered_halves :
    let filters := [entryOf "$match" (entryOf "dept" (.text "A")), entryOf "$limit" (.int 5),
      entryOf "$match" (entryOf "age" (.int 30))]
    let others := [entryOf "$group" (entryOf "_id" (.text "$dept")),
      entryOf "$sort" (entryOf "dept" (.int (-1))), entryOf "$skip" (.int 2)]
    (others ++ filters).Perm (filters ++ others) ∧
      compilePipeline .standard "t" (.list (others ++ filters)) =
        compilePipeline .standard "t" (.list (filters ++ others)) := by
  refine ⟨List.perm_append_comm, ?_⟩
  refine compilePipeline_reordered .standard "t" rfl rfl rfl fun part => ?_
  cases part <;> rfl

end Pipeline
end DocTable
