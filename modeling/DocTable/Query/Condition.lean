/-
# Conditions

A condition compares what is found at a path with an operand. It compiles to a clause with one
parameter for each operand, or to no clause at all: where the path is not a text, the comparison is
unknown, or membership is asked in nothing. A filter is a mapping of paths to operands, or to
documents of comparisons; all of its clauses have to hold.
-/
import DocTable.Codec.Encode
import DocTable.Query.Operator
import DocTable.Query.Path
import DocTable.Statement

namespace DocTable

/-- The operands of a membership: the elements of what holds some, and anything else by itself. Text
and bytes are operands by themselves. -/
def memberOperands (operand : Value) : List Value :=
  match operand with
  | .text _ => [operand]
  | .bytes _ => [operand]
  | _ => operand.elements?.getD [operand]

/-- The clause of a membership of an expression in some operands. -/
def membershipClause (expression : String) (operands : List Value) :
    Except Fault (Option Statement) :=
  if operands.isEmpty then .ok none
  else do
    let params ← operands.mapM Codec.encodeValue
    return some ⟨expression ++ " IN (" ++ Statement.placeholders operands.length ++ ")", params⟩

/-- The operand of a pattern comparison: the source of a pattern, and anything else as it is. -/
def patternOperand : Value → Value
  | .pattern source => .text source
  | v => v

/-- The clause of a comparison of an expression with one operand. -/
def comparisonClause (expression : String) (op : Operator) (operand : Value) :
    Except Fault (Option Statement) :=
  match op, operand with
  | .memberOf, _ => membershipClause expression (memberOperands operand)
  | .equal, .null => .ok (some (.plain (expression ++ " IS NULL")))
  | .notEqual, .null => .ok (some (.plain (expression ++ " IS NOT NULL")))
  | .matching, _ =>
    .ok (some ⟨expression ++ " " ++ Operator.matching.symbol ++ " ?", [patternOperand operand]⟩)
  | op, _ => do
    return some ⟨expression ++ " " ++ op.symbol ++ " ?", [← Codec.encodeValue operand]⟩

/-- The clause of a condition, if it contributes one. -/
def compileCondition (d : Dialect) (path operator operand : Value) :
    Except Fault (Option Statement) :=
  match path, Operator.resolve? operator with
  | .text path, some op => comparisonClause (Path.compile d path) op operand
  | _, _ => .ok none

/-- The conditions of an entry of a filter, as comparisons with their operands: those of a document
of comparisons, or equality. -/
def comparisonsOf : Value → List (Value × Value)
  | .map entries =>
    if Operator.isDocument (.map entries) then entries
    else [(.operator .equal, .map entries)]
  | v => [(.operator .equal, v)]

/-- The conditions of a filter in order; what is not a mapping has none. -/
def conditionsOf : Value → List (Value × Value × Value)
  | .map entries =>
    entries.flatMap fun (path, value) =>
      (comparisonsOf value).map fun (operator, operand) => (path, operator, operand)
  | _ => []

/-- The clauses of conditions, less those that contribute none. -/
def compileConditions (d : Dialect) : List (Value × Value × Value) → Except Fault (List Statement)
  | [] => .ok []
  | (path, operator, operand) :: rest => do
    let clause ← compileCondition d path operator operand
    return clause.toList ++ (← compileConditions d rest)

/-- The clauses of a filter. -/
def compileFilter (d : Dialect) (conditions : Value) : Except Fault (List Statement) :=
  compileConditions d (conditionsOf conditions)

/-- All of some clauses together; nothing if there are none. -/
def conjoin (clauses : List Statement) : Option Statement :=
  if clauses.isEmpty then none else some (Statement.join " AND " clauses)

/-- The condition that a filter leaves, empty if it restricts nothing. -/
def compileWhere (d : Dialect) (conditions : Value) : Except Fault Statement := do
  return (conjoin (← compileFilter d conditions)).getD Statement.empty

end DocTable
