/-
# Databases of tables

A database as far as its structure goes: the tables and their columns. Names of tables and columns
are told apart without regard to the letter case of ASCII letters, but a table is only found to
exist under the exact name. A connection to a database may also be one that rejects everything, or
one that cannot be made at all.
-/
import DocTable.Store.Basic
import DocTable.Store.Structural

namespace DocTable

/-- A table of a database. -/
structure Table where
  /-- The name of the table. -/
  name : String
  /-- The columns in the order in which they were declared. -/
  columns : List Column
  /-- The names of columns that are computed from others and not reported. -/
  computed : List String

/-- The names of all columns of a table. -/
def Table.columnNames (t : Table) : List String := t.columns.map Column.name ++ t.computed

/-- The tables of a database. -/
abbrev Catalogue := List Table

namespace Catalogue

/-- Whether two names differ at most in the letter case of ASCII letters. -/
def sameName (a b : String) : Bool := Text.asciiLower a == Text.asciiLower b

/-- The table of an exact name. -/
def find? (tables : Catalogue) (name : String) : Option Table :=
  List.find? (fun table => table.name == name) tables

/-- How the names of the tables that a database keeps for itself start. -/
def reservedStart : String := "sqlite_"

/-- Whether a table is one that a database keeps for itself. -/
def isReserved (name : String) : Bool :=
  reservedStart.toList.isPrefixOf (Text.asciiLower name).toList

/-- The table in which a database keeps the numbers of the rows of all others. -/
def sequenceTable : Table := ⟨reservedStart ++ "sequence", [⟨"name", ""⟩, ⟨"seq", ""⟩], []⟩

/-- The tables with the table of row numbers among them. -/
def withSequence (tables : Catalogue) : Catalogue :=
  if (find? tables sequenceTable.name).isSome then tables else tables ++ [sequenceTable]

/-- A table that was declared with what was written after the names of its columns. -/
def declaredTable (name : String) (declared : List Column) : Table :=
  let (computed, columns) := declared.partition fun column =>
    Structural.isComputed column.nativeType
  { name := name
    columns := columns.map fun column =>
      { column with nativeType := Structural.reportedType column.nativeType }
    computed := computed.map Column.name }

/-- The tables of a database in which tables were declared with what was written after the names of
their columns. -/
def ofDeclarations (declarations : List (String × List Column)) : Catalogue :=
  let tables := declarations.map fun declaration => declaredTable declaration.1 declaration.2
  if declarations.any fun declaration =>
      declaration.2.any fun column => Structural.numbersRows column.nativeType then
    withSequence tables
  else tables

/-- The greatest number of columns of a table. -/
def columnLimit : Nat := 2000

/-- Why a column cannot stand after others in a table, if it cannot. -/
def columnProblem? (table : String) (before : List String) (column : String) : Option String :=
  if columnLimit ≤ before.length then some ("too many columns on " ++ table)
  else if before.any fun other => sameName other column then
    some ("duplicate column name: " ++ column)
  else none

/-- Why the first column that cannot stand after those before it cannot, if there is one. -/
def columnsProblem? (table : String) : List String → List String → Option String
  | _, [] => none
  | before, column :: rest =>
    (columnProblem? table before column).or (columnsProblem? table (column :: before) rest)

/-- The tables after the creation of one. The first creation also makes the table of row numbers. -/
def create (tables : Catalogue) (name : String) (columns : List Column) :
    Except String Catalogue :=
  if isReserved name then .error ("object name reserved for internal use: " ++ name)
  else if tables.any fun table => sameName table.name name then
    .error ("table " ++ Dialect.quote name ++ " already exists")
  else
    match columnsProblem? name [] (columns.map Column.name) with
    | some message => .error message
    | none =>
      .ok (withSequence (tables ++ [⟨name, columns, []⟩]))

/-- How the name of a table starts while a column is added to it. -/
def alteredStart : String := reservedStart ++ "altertab_"

/-- The tables after the addition of a column. -/
def add (tables : Catalogue) (name : String) (column : Column) : Except String Catalogue :=
  match List.find? (fun table => sameName table.name name) tables with
  | none => .error ("no such table: " ++ name)
  | some table =>
    if isReserved table.name then .error ("table " ++ table.name ++ " may not be altered")
    else
      match columnProblem? (alteredStart ++ table.name) table.columnNames column.name with
      | some message => .error message
      | none =>
        .ok (tables.map fun other =>
          if other.name == table.name then { other with columns := other.columns ++ [column] }
          else other)

/-- The tables after a structural statement. -/
def apply (tables : Catalogue) : Structural → Except String Catalogue
  | .create name columns => tables.create name columns
  | .add name column => tables.add name column

/-- The tables after a statement; only structural statements are understood. -/
def executeText (tables : Catalogue) (text : String) : Except String Catalogue :=
  if text.toList.contains '\x00' then .error "the query contains a null character"
  else
    match Structural.read? text with
    | some change => tables.apply change
    | none => .error "not a structural statement"

end Catalogue

/-- A connection to a database. -/
inductive Connection where
  /-- The tables of the database. -/
  | made (tables : Catalogue)
  /-- The tables of a database that can be asked about; changes are rejected with a message. -/
  | unchangeable (tables : Catalogue) (message : String)
  /-- Every statement is rejected with the same message. -/
  | rejecting (message : String)
  /-- The connection cannot be made. -/
  | impossible (fault : Fault)

namespace Connection

/-- The statement that asks whether a table exists. -/
def existenceStatement (table : String) : Statement :=
  ⟨"SELECT name FROM sqlite_master WHERE type = 'table' AND name = ?", [.text table]⟩

/-- The statement that asks for the columns of a table. -/
def columnsStatement (table : String) : Statement :=
  .plain ("PRAGMA table_info(" ++ Dialect.literal table ++ ")")

/-- The fault of a rejected statement. -/
def rejected (message : String) (statement : Statement) : Fault :=
  .failure (.rejected message (.text statement.text) statement.params)

/-- The answer to a statement that only asks about a table. -/
def ask {α : Type} (c : Connection) (table : String) (statement : Statement)
    (answer : Catalogue → α) : Except Fault α :=
  match c with
  | made tables | unchangeable tables _ =>
    if Text.isWritable table then .ok (answer tables) else .error (.unwritable table)
  | rejecting message => .error (rejected message statement)
  | impossible fault => .error fault

/-- The answer to a structural statement. -/
def execute (statement : Statement) (c : Connection) : Except Fault Answer × Connection :=
  match c with
  | made tables =>
    if !Text.isWritable statement.text then (.error (.unwritable statement.text), c)
    else
      match tables.executeText statement.text with
      | .ok tables => (.ok (.written none 0), made tables)
      | .error message => (.error (rejected message statement), c)
  | unchangeable tables message =>
    if !Text.isWritable statement.text then (.error (.unwritable statement.text), c)
    else
      match tables.executeText statement.text with
      | .ok _ => (.error (rejected message statement), c)
      | .error problem => (.error (rejected problem statement), c)
  | rejecting message => (.error (rejected message statement), c)
  | impossible fault => (.error fault, c)

instance : Store Connection where
  execute := execute
  tableExists table c :=
    (c.ask table (existenceStatement table) fun tables => (tables.find? table).isSome, c)
  describeColumns table c :=
    (c.ask table (columnsStatement table) fun tables =>
      ((tables.find? table).map Table.columns).getD [], c)

end Connection
end DocTable
