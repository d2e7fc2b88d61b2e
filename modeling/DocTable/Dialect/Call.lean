/-
# Calling a dialect by name

The operations of a dialect on arguments of any type. What an operation cannot use is a fault, and
so is a name that is no operation.
-/
import DocTable.Dialect.Basic
import DocTable.Value.Elements

namespace DocTable
namespace Dialect

/-- The fault of a call with too few or too many arguments. -/
def wrongArguments (operation : String) : Fault :=
  .unfit (operation ++ " was called with the wrong number of arguments")

/-- The names of the operations. -/
def operations : List String :=
  ["quote", "identity_column", "create_table", "add_column", "modify_column", "json_extract",
   "insert_defaults", "single_row", "limit_offset"]

/-- The names of the parts of a dialect that are no operations. -/
def constants : List String :=
  ["name", "quote_char", "json_extract_function", "regex_operator", "unbounded_limit",
   "varchar_length"]

/-- The fault of a call that no operation answers. -/
def notAnswered (d : Dialect) (operation : String) : Fault :=
  if operations.contains operation then wrongArguments operation
  else if constants.contains operation then .unfit ("'" ++ operation ++ "' is not callable")
  else .lacksMember d.kindName operation

/-- The texts of a list of definitions. -/
def definitionTexts (definitions : List Value) : Except Fault (List String) :=
  definitions.mapM fun v =>
    match v with
    | .text s => .ok s
    | v => .error (.unfit ("expected text, found " ++ v.typeName))

/-- The statement that creates a table, from arguments of any type. -/
def callCreateTable (d : Dialect) (table definitions : Value) : Except Fault Value := do
  match definitions with
  | .list items =>
    let table ← table.identifier
    return .text (d.createTable table (← definitionTexts items))
  | v => throw (.unfit ("a list of definitions is required, not " ++ v.typeName))

/-- The tail of a write of at most one row, from arguments of any type. -/
def callSingleRow (d : Dialect) (table condition : Value) : Except Fault Value := do
  let condition := if condition.isTruthy then condition.plain else ""
  match d.flavour with
  | .sqlite => return .text (d.singleRow (← table.identifier) condition)
  | _ => return .text (d.singleRow "" condition)

/-- The statement that changes a column, from arguments of any type. -/
def callModifyColumn (d : Dialect) (table column type : Value) : Except Fault Value := do
  match d.flavour with
  | .sqlite => return .null
  | _ =>
    let table ← table.identifier
    let column ← column.identifier
    return ((d.modifyColumn? table column type.plain).map Value.text).getD .null

/-- The result of an operation of a dialect on arguments of any type. -/
def call (d : Dialect) (operation : String) (arguments : List Value) : Except Fault Value :=
  match operation, arguments with
  | "quote", [name] => do return .text (← quoteValue name)
  | "identity_column", [] => .ok (.text (d.identityColumn "id"))
  | "identity_column", [name] => do return .text (d.identityColumn (← name.identifier))
  | "create_table", [table, definitions] => d.callCreateTable table definitions
  | "add_column", [table, column, type] => do
    let table ← table.identifier
    return .text (addColumn table (← column.identifier) type.plain)
  | "modify_column", [table, column, type] => d.callModifyColumn table column type
  | "json_extract", [column, path] => do
    let path ← path.identifier
    return .text (d.jsonExtract (← column.identifier) path)
  | "insert_defaults", [table] => do return .text (d.insertDefaults (← table.identifier))
  | "single_row", [table, condition] => d.callSingleRow table condition
  | "limit_offset", [limit, offset] => do return .text (← d.limitOffset limit offset)
  | operation, _ => .error (d.notAnswered operation)

end Dialect
end DocTable
