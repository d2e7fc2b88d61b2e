/-
# Reading structural statements

The two statements that change the structure of a table are read back from their text: the creation
of a table and the addition of a column. Identifiers stand between quote marks, and a quote mark
inside one is written twice.
-/
import DocTable.Column
import DocTable.Dialect.Basic
import DocTable.Store.Lexeme

namespace DocTable

/-- A statement that changes the structure of a table. -/
inductive Structural where
  /-- The creation of a table with its columns. -/
  | create (table : String) (columns : List Column)
  /-- The addition of a column. -/
  | add (table : String) (column : Column)

namespace Structural

/-- Reads an identifier after its opening quote mark, and gives what follows it. -/
def readQuoted : List Char → Option (List Char × List Char)
  | [] => none
  | [c] => if c = Dialect.quoteMark then some ([], []) else none
  | c :: d :: rest =>
    if c = Dialect.quoteMark then
      if d = Dialect.quoteMark then
        (readQuoted rest).map fun (name, rest) => (Dialect.quoteMark :: name, rest)
      else some ([], d :: rest)
    else (readQuoted (d :: rest)).map fun (name, rest) => (c :: name, rest)

/-- Reads a quoted identifier. -/
def readIdentifier (text : List Char) : Option (String × List Char) :=
  match text with
  | c :: rest =>
    if c = Dialect.quoteMark then
      (readQuoted rest).map fun (name, rest) => (String.ofList name, rest)
    else none
  | [] => none

/-- The definitions between the commas of a list, up to the parenthesis that closes it. `quoted`
says whether the text stands inside an identifier, `depth` in how many inner parentheses. -/
def splitDefinitions (quoted : Bool) (depth : Nat) : List Char → List (List Char)
  | [] => [[]]
  | c :: rest =>
    if !quoted && c == ')' && depth == 0 then [[]]
    else if !quoted && c == ',' && depth == 0 then [] :: splitDefinitions false 0 rest
    else
      let depth :=
        if quoted then depth
        else if c = '(' then depth + 1
        else if c = ')' then depth - 1
        else depth
      match splitDefinitions (quoted != (c == Dialect.quoteMark)) depth rest with
      | [] => [[c]]
      | definition :: definitions => (c :: definition) :: definitions

/-! ## Types of columns -/

/-- The types that a store reports in capitals however they were written. -/
def standardTypes : List String := ["ANY", "BLOB", "INT", "INTEGER", "REAL", "TEXT"]

/-- The words that start a constraint of a column, which is no part of its type. -/
def constraintWords : List String :=
  ["AS", "CHECK", "COLLATE", "CONSTRAINT", "DEFAULT", "DEFERRABLE", "NOT", "NULL", "PRIMARY",
   "REFERENCES", "UNIQUE"]

/-- The lexemes up to the first closing parenthesis. -/
def throughClosing : List Lexeme → List Lexeme
  | [] => []
  | .mark ')' :: _ => [.mark ')']
  | lexeme :: rest => lexeme :: throughClosing rest

/-- The lexemes of the type at the start of a definition: words up to the first that starts a
constraint, and what stands in parentheses after them. -/
def typeLexemes : List Lexeme → List Lexeme
  | [] => []
  | .mark c :: rest => if c = '(' then .mark c :: throughClosing rest else []
  | .word word :: rest =>
    if constraintWords.contains (Lexeme.capitals word) then [] else .word word :: typeLexemes rest
  | lexeme :: rest => lexeme :: typeLexemes rest

/-- A text without a word at its end, whatever its letter case, and without the blanks before it. -/
def withoutEnding? (word : String) (text : List Char) : Option (List Char) :=
  let kept := text.take (text.length - word.length)
  if Lexeme.capitals (text.drop kept.length) == word then
    some (kept.reverse.dropWhile Lexeme.isSpace).reverse
  else none

/-- The least number of bytes of a type that ends with the words for a computed column. -/
def generatedSize : Nat := 16

/-- A type without the words for a computed column, which look like words of the type. -/
def withoutGenerated (type : List Char) : List Char :=
  if (String.ofList type).utf8ByteSize < generatedSize then type
  else
    match withoutEnding? "ALWAYS" type with
    | some rest => (withoutEnding? "GENERATED" rest).getD rest
    | none => type

/-- A type that stands between quote marks as a whole, without them. -/
def unquotedWhole (type : List Char) : List Char :=
  match type with
  | quote :: rest =>
    if Lexeme.isQuote quote && 2 ≤ rest.length && !rest.dropLast.any Lexeme.isQuote then
      rest.dropLast
    else type
  | [] => []

/-- The text inside quote marks up to the mark that closes it; a doubled mark is one. -/
def unquotedText (closing : Char) : List Char → List Char
  | [] => []
  | [c] => if c = closing then [] else [c]
  | c :: d :: rest =>
    if c = closing then
      if d = closing then c :: unquotedText closing rest else []
    else c :: unquotedText closing (d :: rest)

/-- A type that starts with a quote mark ends where that is closed. -/
def unquotedStart (type : List Char) : List Char :=
  match type with
  | quote :: rest =>
    if Lexeme.isQuote quote then unquotedText (Lexeme.closing quote) rest else type
  | [] => []

/-- The type that a store reports for what was written after the name of a column. -/
def reportedType (written : String) : String :=
  let lexemes := typeLexemes (Lexeme.ofText written.toList)
  let type := unquotedWhole (withoutGenerated (Lexeme.trimmedText lexemes))
  if standardTypes.contains (Lexeme.capitals type) then Lexeme.capitals type
  else String.ofList (unquotedStart type)

/-- Whether a word stands in what was written after the name of a column, outside of parentheses. -/
def mentions (word written : String) : Bool :=
  (Lexeme.outside 0 (Lexeme.ofText written.toList)).any (Lexeme.isWord word)

/-- Whether what was written after the name of a column makes the store number rows. -/
def numbersRows (written : String) : Bool := mentions "AUTOINCREMENT" written

/-- Whether what was written after the name of a column makes it one that is computed from others. A
store does not report such columns. -/
def isComputed (written : String) : Bool := mentions "AS" written

/-- Reads the definition of a column. -/
def readColumn (text : List Char) : Option Column :=
  (readIdentifier (text.dropWhile Text.isBlank)).map fun (name, rest) =>
    ⟨name, reportedType (String.ofList rest)⟩

/-- Reads the creation of a table after its first words. -/
def readCreate (text : List Char) : Option Structural := do
  let (table, rest) ← readIdentifier text
  let rest ← Text.afterWord? " (" rest
  let columns ← (splitDefinitions false 0 rest).mapM readColumn
  return create table columns

/-- Reads the addition of a column after its first words. -/
def readAdd (text : List Char) : Option Structural := do
  let (table, rest) ← readIdentifier text
  let rest ← Text.afterWord? " ADD COLUMN " rest
  return add table (← readColumn rest)

/-- Reads a structural statement. -/
def read? (statement : String) : Option Structural :=
  match Text.afterWord? "CREATE TABLE " statement.toList with
  | some rest => readCreate rest
  | none => (Text.afterWord? "ALTER TABLE " statement.toList).bind readAdd

end Structural
end DocTable
