/-
# Planning structural changes

Which changes bring a table in line with the declared fields: one that creates it if there is none,
otherwise one for each field whose column is missing or has a type that does not satisfy the
declared one. Columns are matched by their names in lower case. No column is ever dropped.
-/
import DocTable.Column
import DocTable.Dialect.Basic
import DocTable.Schema.Descriptor
import DocTable.Sync.Change

namespace DocTable

/-- Whether a field is the implicit identity field. -/
def isIdentity (name : Value) : Bool := name.same (.text identityField)

/-- The declarations of the columns of the fields, in order of declaration. -/
def columnDefinitions (d : Dialect) : Fields → Except Fault (List String)
  | [] => .ok []
  | (name, descriptor) :: rest =>
    if isIdentity name then columnDefinitions d rest
    else do
      let column ← name.identifier
      let definition :=
        Dialect.columnDefinition column (Column.storageType d.varcharLength descriptor.kind)
      return definition :: (← columnDefinitions d rest)

/-- The changes for a table that does not exist. -/
def planCreate (d : Dialect) (table : String) (fields : Fields) : Except Fault (List Change) := do
  let definitions ← columnDefinitions d fields
  return [{ kind := .tableCreated
            table := table
            column := none
            statement := some (d.createTable table definitions)
            oldType := none
            newType := none }]

/-- The change that adds a column. -/
def addition (table column expected : String) : Change :=
  { kind := .columnAdded
    table := table
    column := some column
    statement := some (Dialect.addColumn table column expected)
    oldType := none
    newType := some expected }

/-- The change that widens a column. -/
def widening (d : Dialect) (table column native expected : String) : Change :=
  { kind := .columnWidened
    table := table
    column := some column
    statement := d.modifyColumn? table column expected
    oldType := some native
    newType := some expected }

/-- The reported column of a name in lower case; of several the last. -/
def findColumn? (columns : List Column) (lowerName : String) : Option Column :=
  columns.reverse.find? fun column => Text.lower column.name == lowerName

/-- The reported column of a field. -/
def columnOf? (columns : List Column) (name : Value) : Except Fault (Option Column) := do
  match ← name.lowered with
  | .text lowerName => return findColumn? columns lowerName
  | _ => return none

/-- The change that a field needs, if it needs one. -/
def planField (d : Dialect) (table : String) (columns : List Column) (name : Value)
    (descriptor : Descriptor) : Except Fault (Option Change) := do
  let expected := Column.storageType d.varcharLength descriptor.kind
  match ← columnOf? columns name with
  | none => return some (addition table (← name.identifier) expected)
  | some column =>
    if Column.isCompatible column.nativeType expected then return none
    else return some (widening d table (← name.identifier) column.nativeType expected)

/-- The changes for a table that exists, in order of declaration. -/
def planAlter (d : Dialect) (table : String) (columns : List Column) :
    Fields → Except Fault (List Change)
  | [] => .ok []
  | (name, descriptor) :: rest =>
    if isIdentity name then planAlter d table columns rest
    else do
      let change ← planField d table columns name descriptor
      return change.toList ++ (← planAlter d table columns rest)

end DocTable
