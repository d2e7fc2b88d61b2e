/-
# Queries built step by step

A query gathers conditions, sort keys and bounds for one table, one call at a time, and compiles to
a selection at any moment. A call that fails leaves the query as it was.
-/
import DocTable.Query.Selection
import DocTable.Query.Sort

namespace DocTable

/-- A query: what has been gathered so far. -/
structure Query where
  /-- The dialect of the statement. -/
  dialect : Dialect
  /-- The table to select from. -/
  table : Value
  /-- The clauses in the order in which they were added. -/
  conditions : List Statement
  /-- The sort keys: paths and directions. -/
  sortKeys : List (Value × Value)
  /-- The limit, if there is one. -/
  limit : Value
  /-- The offset, if there is one. -/
  skip : Value

namespace Query

/-- A query of all rows of a table. -/
def fresh (dialect : Dialect) (table : Value) : Query := ⟨dialect, table, [], [], .null, .null⟩

/-- A call on a query. -/
inductive Call where
  /-- Select from another table. -/
  | source (table : Value)
  /-- Add the conditions of a filter, or an equality. -/
  | filter (field value : Value)
  /-- Add a comparison. -/
  | compare (op : Operator) (field operand : Value)
  /-- Add a sort key. -/
  | sort (field direction : Value)
  /-- Set the limit. -/
  | limit (count : Value)
  /-- Set the offset. -/
  | skip (count : Value)

/-- The clauses that a call adds. -/
def Call.clauses (d : Dialect) : Call → Except Fault (List Statement)
  | filter (.map entries) _ => compileFilter d (.map entries)
  | filter field value => do
    return (← compileCondition d field (.operator .equal) value).toList
  | compare op field operand => do
    return (← compileCondition d field (.operator op) operand).toList
  | _ => .ok []

/-- A query after a call. -/
def apply (q : Query) (call : Call) : Except Fault Query := do
  let clauses ← call.clauses q.dialect
  let q := { q with conditions := q.conditions ++ clauses }
  match call with
  | .source table => return { q with table := table }
  | .sort field direction => return { q with sortKeys := q.sortKeys ++ [(field, direction)] }
  | .limit count => return { q with limit := count }
  | .skip count => return { q with skip := count }
  | _ => return q

/-- The statement of a query. -/
def compile (q : Query) : Except Fault Statement := do
  let table ← (q.table.orElse (.text "")).identifier
  let bounds ← q.dialect.limitOffset q.limit q.skip
  let selection : Selection :=
    { columns := []
      conditions := q.conditions
      grouping := []
      order := q.sortKeys.map fun key => compileSort q.dialect key.1 key.2
      bounds := bounds }
  return selection.statement table

/-- The text that describes a query. -/
def describe (q : Query) : Except Fault String := do
  return "Query(" ++ Text.quoted (← q.compile).text ++ ")"

/-- The call that a method and its arguments make. -/
def Call.named (method : String) (arguments : List Value) : Except Fault Call :=
  match method, arguments with
  | "from_", [table] => .ok (.source table)
  | "where", [field] => .ok (.filter field .null)
  | "where", [field, value] => .ok (.filter field value)
  | "equals", [field, operand] => .ok (.compare .equal field operand)
  | "ne", [field, operand] => .ok (.compare .notEqual field operand)
  | "in_", [field, operand] => .ok (.compare .memberOf field operand)
  | "lte", [field, operand] => .ok (.compare .atMost field operand)
  | "gte", [field, operand] => .ok (.compare .atLeast field operand)
  | "regex", [field, operand] => .ok (.compare .matching field operand)
  | "sort", [field] => .ok (.sort field (.text "asc"))
  | "sort", [field, direction] => .ok (.sort field direction)
  | "limit", [count] => .ok (.limit count)
  | "skip", [count] => .ok (.skip count)
  | method, _ => .error (.unfit (method ++ " was called with the wrong number of arguments"))

/-- A query after calls of methods with their arguments one after another, up to the first that
cannot be made or fails. -/
def applyNamed (q : Query) (calls : List (String × List Value)) : Except Fault Query :=
  calls.foldlM (fun q call => (Call.named call.1 call.2).bind q.apply) q

end Query
end DocTable
