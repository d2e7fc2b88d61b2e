/-
# Writes

The statements that insert, update and delete rows. An update and a deletion take the same filters
as a selection, and an empty filter takes every row.
-/
import DocTable.Query.Condition

namespace DocTable

/-- Names between quote marks, between commas, each followed by a given text. -/
def quotedNames (pairs : List (Value × Value)) (after : String) : Except Fault String := do
  let names ← pairs.mapM fun pair => Dialect.quoteValue pair.1
  return String.intercalate ", " (names.map fun name => name ++ after)

/-- The statement that inserts one row. -/
def compileInsert (d : Dialect) (table : String) (pairs : List (Value × Value)) :
    Except Fault Statement :=
  if pairs.isEmpty then .ok (.plain (d.insertDefaults table))
  else do
    let columns ← quotedNames pairs ""
    return ⟨"INSERT INTO " ++ Dialect.quote table ++ " (" ++ columns ++ ") VALUES ("
      ++ Statement.placeholders pairs.length ++ ")", pairs.map Prod.snd⟩

/-- A write restricted by a condition, or to one row of those that satisfy it. -/
def restrict (d : Dialect) (table : String) (text condition : String) (single : Bool) : String :=
  text ++ (if single then d.singleRow table condition else Dialect.whereClause condition)

/-- The statement that sets columns of the rows of a filter. -/
def compileUpdate (d : Dialect) (table : String) (pairs : List (Value × Value))
    (conditions : Value) (single : Bool) : Except Fault Statement := do
  let assignments ← quotedNames pairs " = ?"
  let condition ← compileWhere d conditions
  return ⟨restrict d table ("UPDATE " ++ Dialect.quote table ++ " SET " ++ assignments)
    condition.text single, pairs.map Prod.snd ++ condition.params⟩

/-- The statement that deletes the rows of a filter. -/
def compileDelete (d : Dialect) (table : String) (conditions : Value) (single : Bool) :
    Except Fault Statement := do
  let condition ← compileWhere d conditions
  return ⟨restrict d table ("DELETE FROM " ++ Dialect.quote table) condition.text single,
    condition.params⟩

end DocTable
