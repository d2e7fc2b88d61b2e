/-
# Conditions read as clauses

The conditions that contribute a clause are read as clauses: a path with a test of what is found
there, whose operands are encoded. Conditions compile to the statements of their clauses.
-/
import DocTable.Proofs.Query.Closed

namespace DocTable

/-! ## Clauses -/

/-- What a clause asks of what is found at its path. -/
inductive Test where
  /-- Nothing is there. -/
  | isNull
  /-- Something is there. -/
  | isNotNull
  /-- It compares with an operand. -/
  | compares (op : Operator)
  /-- It is one of some operands. -/
  | isAmong
deriving DecidableEq

namespace Test

/-- Whether a test takes a number of operands. -/
def Takes : Test → Nat → Prop
  | isNull, count => count = 0
  | isNotNull, count => count = 0
  | compares _, count => count = 1
  | isAmong, _ => True

/-- What the text of a test starts with, which shows the test. -/
def head : Test → String
  | isNull => " IS NULL"
  | isNotNull => " IS NOT NULL"
  | compares op => " " ++ op.symbol ++ " ?"
  | isAmong => " IN ("

/-- What follows the start: the placeholders of a membership. -/
def tail (count : Nat) : Test → String
  | isAmong => Statement.placeholders count ++ ")"
  | _ => ""

end Test

/-- A test of what is found at a path, with its encoded operands. -/
structure Clause where
  /-- The path. -/
  path : String
  /-- The test. -/
  test : Test
  /-- The operands in the order of their placeholders. -/
  operands : List Value
  /-- There are as many operands as the test takes. -/
  takes : test.Takes operands.length

namespace Clause

/-- The statement of a clause. -/
def compile (d : Dialect) (c : Clause) : Statement :=
  ⟨Path.compile d c.path ++ (c.test.head ++ c.test.tail c.operands.length), c.operands⟩

/-- The clause of a comparison, if it contributes one. -/
def ofComparison? (path : String) (op : Operator) (operand : Value) :
    Except Fault (Option Clause) :=
  match op, operand with
  | .memberOf, _ =>
    if (memberOperands operand).isEmpty then .ok none
    else do
      return some ⟨path, .isAmong, ← (memberOperands operand).mapM Codec.encodeValue, trivial⟩
  | .equal, .null => .ok (some ⟨path, .isNull, [], rfl⟩)
  | .notEqual, .null => .ok (some ⟨path, .isNotNull, [], rfl⟩)
  | .matching, _ => .ok (some ⟨path, .compares .matching, [patternOperand operand], rfl⟩)
  | op, _ => do return some ⟨path, .compares op, [← Codec.encodeValue operand], rfl⟩

/-- The clause of a condition, if it contributes one. -/
def of? (path operator operand : Value) : Except Fault (Option Clause) :=
  match path, Operator.resolve? operator with
  | .text path, some op => ofComparison? path op operand
  | _, _ => .ok none

/-- The clauses of conditions, less the conditions that contribute none. -/
def allOf : List (Value × Value × Value) → Except Fault (List Clause)
  | [] => .ok []
  | (path, operator, operand) :: rest => do
    let clause ← of? path operator operand
    return clause.toList ++ (← allOf rest)

/-! ## Conditions compile to their clauses -/

variable (d : Dialect)

lemma compile_compares (path : String) (op : Operator) (operand : Value) :
    compile d ⟨path, .compares op, [operand], rfl⟩ =
      ⟨Path.compile d path ++ " " ++ op.symbol ++ " ?", [operand]⟩ := by
  simp [compile, Test.head, Test.tail, String.append_assoc]

lemma compile_isAmong (path : String) (operands : List Value) :
    compile d ⟨path, .isAmong, operands, trivial⟩ =
      ⟨Path.compile d path ++ " IN (" ++ Statement.placeholders operands.length ++ ")",
        operands⟩ := by
  simp [compile, Test.head, Test.tail, String.append_assoc]

lemma membershipClause_eq (path : String) (operands : List Value) :
    membershipClause (Path.compile d path) operands =
      if operands.isEmpty then .ok none
      else do
        return some (compile d ⟨path, .isAmong, ← operands.mapM Codec.encodeValue, trivial⟩) := by
  rw [membershipClause]
  split_ifs
  · rfl
  · cases hparams : operands.mapM Codec.encodeValue with
    | error fault => rfl
    | ok params =>
      simp only [ok_bind, pure_eq_ok]
      rw [compile_isAmong, length_of_mapM_encode hparams]

lemma comparisonClause_eq (path : String) (op : Operator) (operand : Value) :
    comparisonClause (Path.compile d path) op operand =
      (ofComparison? path op operand).map (Option.map (compile d)) := by
  unfold comparisonClause
  split
  · rw [ofComparison?, membershipClause_eq]
    split_ifs
    · rfl
    · cases (memberOperands operand).mapM Codec.encodeValue <;> rfl
  · rfl
  · rfl
  · rw [ofComparison?, Except.map, Option.map, compile_compares]
  · rw [ofComparison?]
    · cases Codec.encodeValue operand with
      | error fault => rfl
      | ok param =>
        simp only [ok_bind, pure_eq_ok]
        rw [Except.map, Option.map, compile_compares]
    -- the operator and the operand are none of the ones before
    all_goals assumption

lemma compileCondition_eq (path operator operand : Value) :
    compileCondition d path operator operand =
      (of? path operator operand).map (Option.map (compile d)) := by
  unfold compileCondition
  split
  · rename_i path op hop
    rw [comparisonClause_eq]
    simp only [of?, hop]
  · rw [of?]
    · rfl
    · assumption

/-- Conditions compile to the statements of their clauses, and fail where one of these fails. -/
lemma compileConditions_eq (conditions : List (Value × Value × Value)) :
    compileConditions d conditions = (allOf conditions).map (List.map (compile d)) := by
  induction conditions with
  | nil => rfl
  | cons condition conditions ih =>
    obtain ⟨path, operator, operand⟩ := condition
    rw [compileConditions, allOf, compileCondition_eq, ih]
    cases of? path operator operand with
    | error fault => rfl
    | ok clause =>
      cases allOf conditions with
      | error fault => rfl
      | ok clauses => cases clause <;> rfl

end Clause
end DocTable
