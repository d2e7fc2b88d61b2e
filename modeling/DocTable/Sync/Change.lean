/-
# Structural changes

One step on the way from the table that a store has to the table that the declared fields ask for.
-/
import DocTable.Fault

namespace DocTable

/-- The kinds of structural change. -/
inductive ChangeKind where
  | tableCreated | columnAdded | columnWidened
deriving DecidableEq

/-- A structural change. -/
structure Change where
  /-- The kind of change. -/
  kind : ChangeKind
  /-- The table. -/
  table : String
  /-- The column, unless a table is created. -/
  column : Option String
  /-- The statement, unless the dialect has none for it. -/
  statement : Option String
  /-- The reported type of the column before. -/
  oldType : Option String
  /-- The declared type of the column. -/
  newType : Option String
deriving DecidableEq

namespace ChangeKind

/-- The name of a kind of change. -/
def name : ChangeKind → String
  | tableCreated => "TABLE_CREATED"
  | columnAdded => "COLUMN_ADDED"
  | columnWidened => "COLUMN_WIDENED"

end ChangeKind

namespace Change

/-- What a change is about: the column within its table, or the table. -/
def path (c : Change) : String :=
  match c.column with
  | some column => if column.isEmpty then c.table else c.table ++ "." ++ column
  | none => c.table

/-- The text of a type that may be unknown. -/
def typeText (type : Option String) : String := type.getD "None"

/-- The text of a change. -/
def text (c : Change) : String :=
  c.kind.name ++ ": " ++ c.path
    ++ (match c.kind with
        | .columnWidened => " (" ++ typeText c.oldType ++ " -> " ++ typeText c.newType ++ ")"
        | _ => "")

end Change
end DocTable
