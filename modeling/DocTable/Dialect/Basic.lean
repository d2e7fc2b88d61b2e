/-
# Dialects

The statements that differ between stores. Identifiers stand between backticks, a backtick inside
one is written twice, so that any text can name a table or a column.
-/
import DocTable.Value.Whole
import DocTable.Text.Case

namespace DocTable

/-- The flavours of statement text. The base flavour writes what MySQL does. -/
inductive Flavour where
  | base | mysql | sqlite
deriving DecidableEq

/-- A dialect: a flavour of statements and the length of bounded text columns. -/
structure Dialect where
  /-- The flavour of statement text. -/
  flavour : Flavour
  /-- The length of bounded text columns. -/
  varcharLength : Int

namespace Value

/-- The fault of a value that is asked to replace parts of its text and has none. -/
def notReplaceable : Value → Fault
  | bytes _ => .unfit "a bytes-like object is required, not 'str'"
  | timestamp _ => .unfit "'str' object cannot be interpreted as an integer"
  | date _ => .unfit "'str' object cannot be interpreted as an integer"
  | type .text => .unfit "replace expected at least 2 arguments, got 1"
  | type .bytes =>
    .unfit "descriptor 'replace' for 'bytes' objects doesn't apply to a 'str' object"
  | type .timestamp =>
    .unfit "descriptor 'replace' for 'datetime.datetime' objects doesn't apply to a 'str' object"
  | type .date =>
    .unfit "descriptor 'replace' for 'datetime.date' objects doesn't apply to a 'str' object"
  | v => .lacks v "replace"

/-- The text of an identifier; no other value can be one. -/
def identifier : Value → Except Fault String
  | text s => .ok s
  | v => .error v.notReplaceable

/-- A value in lower case: text, and bytes in their ASCII reading. -/
def lowered : Value → Except Fault Value
  | text s => .ok (text (Text.lower s))
  | bytes b => .ok (bytes (b.map fun byte => if 65 ≤ byte ∧ byte ≤ 90 then byte + 32 else byte))
  | type .text => .error (.unfit "unbound method str.lower() needs an argument")
  | type .bytes => .error (.unfit "unbound method bytes.lower() needs an argument")
  | v => .error (.lacks v "lower")

end Value

namespace Dialect

/-- The name of a dialect. -/
def name (d : Dialect) : String :=
  match d.flavour with
  | .sqlite => "sqlite"
  | _ => "mysql"

/-- The dialect of a name in any letter case. -/
def named (name : Value) (varcharLength : Int) : Except Fault Dialect := do
  match ← name.lowered with
  | .text "mysql" => return ⟨.mysql, varcharLength⟩
  | .text "sqlite" => return ⟨.sqlite, varcharLength⟩
  | _ => throw (.unknownDialect name.plain)

/-- The dialect of a model or query that is given none. -/
def standard : Dialect := ⟨.mysql, 255⟩

/-- The name of the kind of a dialect. -/
def kindName (d : Dialect) : String :=
  match d.flavour with
  | .base => "Dialect"
  | .mysql => "MySQLDialect"
  | .sqlite => "SQLiteDialect"

/-- The text that describes a dialect. -/
def describe (d : Dialect) : String :=
  d.kindName ++ "(varchar_length=" ++ Int.repr d.varcharLength ++ ")"

/-- The character around identifiers. -/
def quoteMark : Char := '\x60'

/-- An identifier between quote marks. -/
def quote (identifier : String) : String :=
  String.ofList (quoteMark :: Text.doubled quoteMark identifier.toList ++ [quoteMark])

/-- The identifier that a value gives, between quote marks. -/
def quoteValue (v : Value) : Except Fault String := do return quote (← v.identifier)

/-- The declaration of the identity column. -/
def identityColumn (d : Dialect) (name : String) : String :=
  quote name ++ (match d.flavour with
    | .sqlite => " INTEGER PRIMARY KEY AUTOINCREMENT"
    | _ => " INT AUTO_INCREMENT PRIMARY KEY")

/-- The statement that creates a table of the identity column and the declared ones. -/
def createTable (d : Dialect) (table : String) (definitions : List String) : String :=
  "CREATE TABLE " ++ quote table ++ " ("
    ++ String.intercalate ", " (d.identityColumn "id" :: definitions) ++ ")"

/-- The declaration of a column. -/
def columnDefinition (column type : String) : String := quote column ++ " " ++ type

/-- The statement that adds a column. -/
def addColumn (table column type : String) : String :=
  "ALTER TABLE " ++ quote table ++ " ADD COLUMN " ++ columnDefinition column type

/-- The statement that changes the type of a column, where the dialect has one. -/
def modifyColumn? (d : Dialect) (table column type : String) : Option String :=
  match d.flavour with
  | .sqlite => none
  | _ => some ("ALTER TABLE " ++ quote table ++ " MODIFY COLUMN " ++ columnDefinition column type)

/-- A text as a literal between apostrophes. -/
def literal (s : String) : String :=
  String.ofList ('\x27' :: Text.doubled '\x27' s.toList ++ ['\x27'])

/-- The expression for what a JSON column holds at a path. -/
def jsonExtract (d : Dialect) (column path : String) : String :=
  (match d.flavour with
    | .sqlite => "json_extract"
    | _ => "JSON_EXTRACT")
    ++ "(" ++ quote column ++ ", " ++ literal path ++ ")"

/-- The statement that inserts a row of defaults. -/
def insertDefaults (d : Dialect) (table : String) : String :=
  "INSERT INTO " ++ quote table ++ (match d.flavour with
    | .sqlite => " DEFAULT VALUES"
    | _ => " () VALUES ()")

/-- The tail of a statement that restricts it by a condition, if there is one. -/
def whereClause (condition : String) : String :=
  if condition.isEmpty then "" else " WHERE " ++ condition

/-- The tail of a write that restricts it to at most one row. -/
def singleRow (d : Dialect) (table condition : String) : String :=
  match d.flavour with
  | .sqlite =>
    " WHERE " ++ quote "id" ++ " IN (SELECT " ++ quote "id" ++ " FROM " ++ quote table
      ++ whereClause condition ++ " LIMIT 1)"
  | _ => whereClause condition ++ " LIMIT 1"

/-- The limit that stands for no limit before an offset. -/
def unboundedLimit (d : Dialect) : String :=
  match d.flavour with
  | .sqlite => "-1"
  | _ => "18446744073709551615"

/-- The tail of a selection for the texts of a limit and an offset, each of which may be absent. -/
def boundsOf (d : Dialect) (limit offset : Option String) : String :=
  String.intercalate " "
    ((match limit, offset with
      | some n, _ => ["LIMIT " ++ n]
      | none, some _ => ["LIMIT " ++ d.unboundedLimit]
      | none, none => [])
    ++ (match offset with
      | some n => ["OFFSET " ++ n]
      | none => []))

/-- The text of the number of a bound, which must not have too many digits. -/
def boundText (n : Int) : Except Fault String :=
  if Number.isTooLong n then .error (.meaningless "the number has too many digits")
  else .ok (Int.repr n)

/-- The text of the number of a bound that may be absent. -/
def boundText? : Option Int → Except Fault (Option String)
  | none => .ok none
  | some n => (boundText n).map some

/-- The tail of a selection for a limit and an offset, each of which may be absent. -/
def boundsText (d : Dialect) (limit offset : Option Int) : Except Fault String := do
  let limit ← boundText? limit
  return d.boundsOf limit (← boundText? offset)

/-- The number of a bound that may be absent. -/
def bound (v : Value) : Except Fault (Option Int) :=
  match v with
  | .null => .ok none
  | v => do return some (← v.whole)

/-- The tail of a selection for a limit and an offset given as values. -/
def limitOffset (d : Dialect) (limit offset : Value) : Except Fault String := do
  let limit ← boundText? (← bound limit)
  return d.boundsOf limit (← boundText? (← bound offset))

end Dialect
end DocTable
