/-
# The operands of a filter

Of each condition of a filter some operands are stored as parameters: all elements of a membership,
none of a pattern comparison, and the one operand of any other comparison that is known. A filter
compiles exactly if all of these have a stored form. What is no mapping, paths of other types than
text and comparisons that are not known have no such operands, whatever they hold.
-/
import DocTable.Proofs.Codec.Encodable
import DocTable.Query.Condition

namespace DocTable

/-- The operands that a comparison stores. -/
def Operator.stored (op : Operator) (operand : Value) : List Value :=
  match op with
  | .memberOf => memberOperands operand
  | .matching => []
  | _ => [operand]

/-- The operands that a condition stores. -/
def storedOperands (path operator operand : Value) : List Value :=
  match path, Operator.resolve? operator with
  | .text _, some op => op.stored operand
  | _, _ => []

/-- Whether all operands that a filter stores have a stored form. -/
def isStorable (conditions : Value) : Bool :=
  (conditionsOf conditions).all fun condition =>
    (storedOperands condition.1 condition.2.1 condition.2.2).all Value.isEncodable

/-! ## The conditions of a filter -/

/-- A document of comparisons stands for its comparisons. -/
lemma comparisonsOf_of_isDocument {entries : Entries}
    (h : Operator.isDocument (.map entries) = true) : comparisonsOf (.map entries) = entries := by
  rw [comparisonsOf, if_pos h]

/-- Any other value is compared with as it is. -/
lemma comparisonsOf_of_not_isDocument {v : Value} (h : Operator.isDocument v = false) :
    comparisonsOf v = [(.operator .equal, v)] := by
  cases v with
  | map entries => rw [comparisonsOf, h, if_neg Bool.false_ne_true]
  | _ => rfl

lemma mem_conditionsOf_iff {entries : Entries} {path operator operand : Value} :
    (path, operator, operand) ∈ conditionsOf (.map entries) ↔
      ∃ value, (path, value) ∈ entries ∧ (operator, operand) ∈ comparisonsOf value := by
  simp only [conditionsOf, List.mem_flatMap, List.mem_map, Prod.exists, Prod.mk.injEq]
  constructor
  · rintro ⟨_, value, hentry, _, _, hcomparison, rfl, rfl, rfl⟩
    exact ⟨value, hentry, hcomparison⟩
  · rintro ⟨value, hentry, hcomparison⟩
    exact ⟨path, value, hentry, operator, operand, hcomparison, rfl, rfl, rfl⟩

/-! ## Filters that compile -/

variable {d : Dialect}

lemma succeeds_membershipClause_iff {expression : String} {operands : List Value} :
    Succeeds (membershipClause expression operands) ↔ ∀ v ∈ operands, v.isEncodable = true := by
  rw [membershipClause]
  split_ifs with hempty
  · rw [List.isEmpty_iff] at hempty
    simp [hempty]
  · simp only [← Codec.succeeds_encodeValue_iff, ← succeeds_mapM_iff]
    exact succeeds_bind_ok_iff

lemma succeeds_comparisonClause_iff {expression : String} {op : Operator} {operand : Value} :
    Succeeds (comparisonClause expression op operand) ↔
      ∀ v ∈ op.stored operand, v.isEncodable = true := by
  unfold comparisonClause
  split
  · exact succeeds_membershipClause_iff
  · simp [Operator.stored, Value.isEncodable]
  · simp [Operator.stored, Value.isEncodable]
  · simp [Operator.stored]
  · rename_i hmember hmatching _ _
    have hstored : op.stored operand = [operand] := by
      cases op with
      | memberOf => exact absurd rfl hmember
      | matching => exact absurd rfl hmatching
      | _ => rfl
    rw [hstored, List.forall_mem_singleton, ← Codec.succeeds_encodeValue_iff]
    exact succeeds_bind_ok_iff

lemma succeeds_compileCondition_iff {path operator operand : Value} :
    Succeeds (compileCondition d path operator operand) ↔
      ∀ v ∈ storedOperands path operator operand, v.isEncodable = true := by
  by_cases hknown : ∃ p op, path = .text p ∧ Operator.resolve? operator = some op
  · obtain ⟨p, op, rfl, hop⟩ := hknown
    simp only [compileCondition, storedOperands, hop]
    exact succeeds_comparisonClause_iff
  · have hclause : compileCondition d path operator operand = .ok none := by
      unfold compileCondition
      split
      · rename_i hop
        exact absurd ⟨_, _, rfl, hop⟩ hknown
      · rfl
    have hstored : storedOperands path operator operand = [] := by
      unfold storedOperands
      split
      · rename_i hop
        exact absurd ⟨_, _, rfl, hop⟩ hknown
      · rfl
    rw [hclause, hstored]
    simp

lemma succeeds_compileConditions_iff {conditions : List (Value × Value × Value)} :
    Succeeds (compileConditions d conditions) ↔
      ∀ c ∈ conditions, ∀ v ∈ storedOperands c.1 c.2.1 c.2.2, v.isEncodable = true := by
  induction conditions with
  | nil => simp [compileConditions]
  | cons condition conditions ih =>
    obtain ⟨path, operator, operand⟩ := condition
    rw [compileConditions, List.forall_mem_cons, ← ih, ← succeeds_compileCondition_iff]
    exact succeeds_bind_iff fun clause _ => succeeds_bind_ok_iff

/-- A filter compiles exactly if all operands that it stores have a stored form. -/
lemma succeeds_compileFilter_iff {conditions : Value} :
    Succeeds (compileFilter d conditions) ↔ isStorable conditions = true := by
  rw [compileFilter, succeeds_compileConditions_iff, isStorable]
  simp only [List.all_eq_true]

end DocTable
