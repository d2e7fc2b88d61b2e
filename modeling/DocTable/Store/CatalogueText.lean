/-
# Databases as text

The text in which the structure of a database is kept in a file: a line that says what the file is,
and then the tables and their columns as JSON. A text that starts with another line is no database.
-/
import DocTable.Json.Outline
import DocTable.Json.Reader
import DocTable.Store.Catalogue

namespace DocTable
namespace Catalogue

/-- The first line of a database. -/
def heading : String := "document tables\n"

/-- A column as a value. -/
def columnValue (c : Column) : Value := .list [.text c.name, .text c.nativeType]

/-- A table as a value. -/
def tableValue (t : Table) : Value :=
  .list [.text t.name, .list (t.columns.map columnValue), .list (t.computed.map Value.text)]

/-- The text of a database. -/
def print (tables : Catalogue) : String :=
  heading ++ Json.outline 0 (.list (tables.map tableValue)) ++ "\n"

/-- The column that a value describes. -/
def columnOf? : Value → Option Column
  | .list [.text name, .text type] => some ⟨name, type⟩
  | _ => none

/-- The table that a value describes. -/
def tableOf? : Value → Option Table
  | .list [.text name, .list columns, .list computed] => do
    return ⟨name, ← columns.mapM columnOf?, ← computed.mapM Value.text?⟩
  | _ => none

/-- How deep lists are nested in the text of a database. -/
def textNesting : Nat := 4

/-- The database that a text describes. -/
def read? (text : String) : Option Catalogue := do
  let rest ← Text.afterWord? heading text.toList
  match Json.read textNesting (String.ofList rest) with
  | .ok (.list tables) => tables.mapM tableOf?
  | _ => none

end Catalogue
end DocTable
