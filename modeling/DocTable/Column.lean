/-
# Storage columns

How a field type is declared as a column, and when a column that a store reports already satisfies a
declared type. Reported types are compared by their name alone, in classes of types that hold the
same values.
-/
import DocTable.Value.Basic
import DocTable.Text.Class

namespace DocTable

/-- A column as a store reports it. -/
structure Column where
  /-- The name of the column. -/
  name : String
  /-- The type of the column in the words of the store. -/
  nativeType : String

namespace Column

/-- The type under which a field is declared. -/
def storageType (varcharLength : Int) : FieldKind → String
  | .text => "VARCHAR(" ++ Int.repr varcharLength ++ ")"
  | .integer => "INT"
  | .boolean => "BOOLEAN"
  | .temporal => "DATETIME"
  | .structured => "JSON"

/-- The name of a type in capitals, without its length and other parameters; empty if the type does
not start with a word. -/
def baseType (type : String) : String :=
  String.ofList
    (((type.toList.dropWhile Text.isBlank).takeWhile Text.isAsciiLetter).map Char.toUpper)

/-- The types that hold the values of a declared type, by its name. -/
def acceptedTypes : List (String × List String) :=
  [("VARCHAR", ["VARCHAR", "CHAR", "TEXT", "TINYTEXT", "MEDIUMTEXT", "LONGTEXT"]),
   ("INT", ["INT", "INTEGER", "BIGINT", "SMALLINT", "MEDIUMINT", "TINYINT"]),
   ("BOOLEAN", ["BOOLEAN", "BOOL", "TINYINT"]),
   ("DATETIME", ["DATETIME", "TIMESTAMP"]),
   ("JSON", ["JSON"])]

/-- Whether a reported type already satisfies an expected one. -/
def isCompatible (native expected : String) : Bool :=
  ((acceptedTypes.lookup (baseType expected)).getD []).contains (baseType native)

end Column
end DocTable
