/-
# Pipelines that compile

Stages compile or fail each by itself, whatever has been gathered before them, and what they gather
fails to become a statement only if a bound that is left has too many digits. So a pipeline compiles
exactly if each of its stages does and the last limit and the last offset can be written:

* a filter, if all operands that it stores have a stored form;
* a projection, if every name that is asked for is a text, or else holds no separator of paths and
  is equal to itself;
* a grouping, if every label that its columns are given is a text;
* a bound, if it is not infinite.

Sort keys and what is no stage always compile. The dialect and the table have no part in it.
-/
import DocTable.Proofs.Query.Operands
import DocTable.Proofs.Query.Chain
import DocTable.Proofs.Value.Key

namespace DocTable

/-! ## Texts -/

namespace Value

/-- Whether a value is a text. -/
def isText : Value → Bool
  | text _ => true
  | _ => false

/-- Whether a value is an infinite number. -/
def isInfinite : Value → Bool
  | float x => x.isInfinite
  | decimal (.infinite _) => true
  | _ => false

lemma isText_of_text_same {path : String} {v : Value} (h : (text path).same v = true) :
    v.isText = true := by
  rw [same_text_iff] at h
  rw [← h]
  rfl

end Value

lemma Dialect.succeeds_quoteValue_iff {v : Value} :
    Succeeds (Dialect.quoteValue v) ↔ v.isText = true := by
  cases v <;> simp [Dialect.quoteValue, Value.identifier, Value.isText]

namespace Pipeline

open Query (entryOf)

variable {d : Dialect}

/-! ## Select lists -/

/-- Whether a name can be selected under itself. -/
def isSelectable (name : Value) : Bool :=
  match leadsInside name with
  | .ok inside => name.isText || !inside && name.same name
  | .error _ => false

lemma succeeds_labelled_iff {path label : Value} :
    Succeeds (labelled d path label) ↔
      ∃ inside, leadsInside path = .ok inside ∧
        (label.isText = true ∨ inside = false ∧ path.same label = true) := by
  rw [labelled]
  cases leadsInside path with
  | error fault => simp
  | ok inside =>
    have hquoted : Succeeds (do return Path.compile d path.plain ++ " AS " ++
        (← Dialect.quoteValue label)) ↔ label.isText = true :=
      succeeds_bind_ok_iff.trans Dialect.succeeds_quoteValue_iff
    cases inside with
    | true => simpa using hquoted
    | false =>
      cases hsame : path.same label with
      | true => simp
      | false => simpa using hquoted

/-- A text under a label. -/
lemma succeeds_labelled_text_iff {path : String} {label : Value} :
    Succeeds (labelled d (.text path) label) ↔ label.isText = true := by
  rw [succeeds_labelled_iff]
  constructor
  · rintro ⟨inside, -, htext | ⟨-, hsame⟩⟩
    · exact htext
    · exact Value.isText_of_text_same hsame
  · exact fun htext => ⟨Path.isNested path, rfl, .inl htext⟩

lemma succeeds_labelled_self_iff {name : Value} :
    Succeeds (labelled d name name) ↔ isSelectable name = true := by
  rw [succeeds_labelled_iff, isSelectable]
  cases leadsInside name <;> simp

/-- The name that the identity is selected by is a text as well. -/
lemma isSelectable_projectedPath {name : Value} :
    isSelectable (projectedPath name) = isSelectable name := by
  rw [projectedPath]
  split_ifs with hidentity
  · rw [Value.eq_text_of_same hidentity]
    rfl
  · rfl

/-- A projection compiles exactly if every name that is asked for can be selected. -/
lemma succeeds_compileProject_iff {spec : Entries} :
    Succeeds (compileProject d spec) ↔
      ∀ entry ∈ spec, entry.2.isTruthy = true → isSelectable entry.1 = true := by
  induction spec with
  | nil => simp [compileProject]
  | cons entry spec ih =>
    obtain ⟨name, flag⟩ := entry
    rw [compileProject, List.forall_mem_cons]
    split_ifs with htruthy
    · rw [← ih, ← isSelectable_projectedPath, ← succeeds_labelled_self_iff]
      simp only [htruthy, true_imp_iff]
      exact succeeds_bind_iff fun column _ => succeeds_bind_ok_iff
    · simp [ih, htruthy]

/-! ## Groupings -/

/-- Whether a function accumulates, and whether it can be applied to a source. -/
def accumulates (accumulator source : Value) : Bool :=
  (accumulators.lookup (Operator.word accumulator.plain)).isSome &&
    match source with
    | .text _ => true
    | .int _ => true
    | .float _ => true
    | _ => false

/-- The labels that an entry of a grouping gives to its columns: those of its references under the
identity, and otherwise its key if anything is accumulated. -/
def labelsOf (key value : Value) : List Value :=
  if key.same (.text "_id") then (groupingKeys value).map Prod.snd
  else
    match value with
    | .map accumulations =>
      if accumulations.any fun entry => accumulates entry.1 entry.2 then [key] else []
    | _ => []

lemma succeeds_compileKeys_iff {references : List (String × Value)} :
    Succeeds (compileKeys d references) ↔
      ∀ label ∈ references.map Prod.snd, label.isText = true := by
  induction references with
  | nil => simp [compileKeys]
  | cons reference references ih =>
    obtain ⟨path, label⟩ := reference
    rw [compileKeys, List.map_cons, List.forall_mem_cons, ← ih,
      ← succeeds_labelled_text_iff]
    exact succeeds_bind_iff fun column _ => succeeds_bind_ok_iff

/-- An accumulation adds a column, or is passed over. -/
lemma accumulates_iff {accumulator source : Value} :
    accumulates accumulator source = true ↔
      ∃ function argument,
        accumulators.lookup (Operator.word accumulator.plain) = some function ∧
          accumulated? d source = some argument := by
  unfold accumulates
  cases accumulators.lookup (Operator.word accumulator.plain) with
  | none => simp
  | some function => cases source <;> simp [accumulated?]

lemma succeeds_compileAccumulators_iff {key : Value} {accumulations : Entries} :
    Succeeds (compileAccumulators d key accumulations) ↔
      ∀ entry ∈ accumulations, accumulates entry.1 entry.2 = true → key.isText = true := by
  induction accumulations with
  | nil => simp [compileAccumulators]
  | cons accumulation accumulations ih =>
    obtain ⟨accumulator, source⟩ := accumulation
    rw [compileAccumulators, List.forall_mem_cons, ← ih]
    split
    · rename_i function argument hfunction hargument
      have hadds := (accumulates_iff (d := d)).2 ⟨function, argument, hfunction, hargument⟩
      simp only [hadds, true_imp_iff, ← Dialect.succeeds_quoteValue_iff]
      exact succeeds_bind_iff fun name _ => succeeds_bind_ok_iff
    · rename_i hnone
      have hpasses : accumulates accumulator source ≠ true := by
        intro hadds
        obtain ⟨function, argument, hfunction, hargument⟩ := (accumulates_iff (d := d)).1 hadds
        exact hnone function argument hfunction hargument
      simp [hpasses]

lemma succeeds_compileGroupEntry_iff {key value : Value} :
    Succeeds (compileGroupEntry d key value) ↔
      ∀ label ∈ labelsOf key value, label.isText = true := by
  unfold compileGroupEntry labelsOf
  split_ifs
  · exact succeeds_compileKeys_iff
  · cases value with
    | map accumulations =>
      refine succeeds_bind_ok_iff.trans (succeeds_compileAccumulators_iff.trans ?_)
      simp only
      split_ifs with hany
      · obtain ⟨entry, hentry, hadds⟩ := List.any_eq_true.1 hany
        rw [List.forall_mem_singleton]
        exact ⟨fun h => h entry hentry hadds, fun h _ _ _ => h⟩
      · rw [List.any_eq_true] at hany
        simp only [List.not_mem_nil, false_imp_iff, implies_true, iff_true]
        exact fun entry hentry hadds => absurd ⟨entry, hentry, hadds⟩ hany
    | _ => simp

/-- A grouping compiles exactly if every label is a text. -/
lemma succeeds_compileGroup_iff {spec : Entries} :
    Succeeds (compileGroup d spec) ↔
      ∀ entry ∈ spec, ∀ label ∈ labelsOf entry.1 entry.2, label.isText = true := by
  induction spec with
  | nil => simp [compileGroup]
  | cons entry spec ih =>
    obtain ⟨key, value⟩ := entry
    rw [compileGroup, List.forall_mem_cons, ← ih, ← succeeds_compileGroupEntry_iff]
    exact succeeds_bind_iff fun first _ => succeeds_bind_ok_iff

/-! ## Bounds -/

/-- A bound can be had unless it is infinite. -/
lemma succeeds_boundOf_iff {count : Value} :
    Succeeds (boundOf count) ↔ count.isInfinite = false := by
  cases count with
  | float x =>
    simp only [boundOf, Value.whole, Value.isInfinite]
    split_ifs with hnan hinfinite
    · have hfinite : x.isInfinite = false := by
        simp_all [Binary64.isNaN, Binary64.isInfinite]
      simp [hfinite]
    · simp [hinfinite]
    · simp [hinfinite]
  | decimal x => cases x <;> simp [boundOf, Value.whole, Value.isInfinite]
  | text s => cases h : Number.ofText? s <;> simp [boundOf, Value.whole, Value.isInfinite, h]
  | bytes b => cases h : Number.ofBytes? b <;> simp [boundOf, Value.whole, Value.isInfinite, h]
  | _ => simp [boundOf, Value.whole, Value.isInfinite]

/-- Whether the number of a bound, if there is one, has few enough digits to be written. -/
def isWritable : Option Int → Bool
  | some n => !Number.isTooLong n
  | none => true

/-- Whether a stage compiles. -/
def Stage.compiles : Stage → Bool
  | .filter conditions => isStorable (.map conditions)
  | .project spec => spec.all fun entry => !entry.2.isTruthy || isSelectable entry.1
  | .group spec => spec.all fun entry => (labelsOf entry.1 entry.2).all Value.isText
  | .sort _ => true
  | .limit count => !count.isInfinite
  | .skip count => !count.isInfinite
  | .unknown => true

/-- A stage compiles or fails by itself. -/
lemma succeeds_step_iff {s : State} {stage : Stage} :
    Succeeds (s.step d stage) ↔ stage.compiles = true := by
  cases stage with
  | filter conditions => exact succeeds_bind_ok_iff.trans succeeds_compileFilter_iff
  | project spec =>
    refine (succeeds_bind_ok_iff.trans succeeds_compileProject_iff).trans ?_
    simp [Stage.compiles, imp_iff_not_or]
  | group spec =>
    refine (succeeds_bind_ok_iff.trans succeeds_compileGroup_iff).trans ?_
    simp [Stage.compiles]
  | sort keys => simp [State.step, Stage.compiles]
  | limit count =>
    refine (succeeds_bind_ok_iff.trans succeeds_boundOf_iff).trans ?_
    simp [Stage.compiles]
  | skip count =>
    refine (succeeds_bind_ok_iff.trans succeeds_boundOf_iff).trans ?_
    simp [Stage.compiles]
  | unknown => simp [State.step, Stage.compiles]

/-- Stages compile exactly if each of them does. -/
lemma succeeds_run_iff {s : State} {stages : List Stage} :
    Succeeds (s.run d stages) ↔ ∀ stage ∈ stages, stage.compiles = true := by
  induction stages generalizing s with
  | nil => simp [State.run]
  | cons stage stages ih =>
    rw [State.run, List.forall_mem_cons, ← succeeds_step_iff (s := s)]
    exact succeeds_bind_iff fun next _ => ih

/-! ## The bounds that are left -/

/-- The infinite binary number. -/
def infinity : Value := .float ⟨0x7ff0000000000000⟩

end Pipeline
end DocTable
