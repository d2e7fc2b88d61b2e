/-
# Statements

The text of a statement, with a question mark for each parameter, and the parameters in that order.
-/
import DocTable.Value.Basic

namespace DocTable

/-- A statement with its parameters. -/
structure Statement where
  /-- The text of the statement. -/
  text : String
  /-- The parameters in the order of their placeholders. -/
  params : List Value

namespace Statement

/-- A statement without parameters. -/
def plain (text : String) : Statement := ⟨text, []⟩

/-- The empty statement. -/
def empty : Statement := plain ""

/-- Fragments joined by a separator, with the parameters of all of them in order. -/
def join (separator : String) (fragments : List Statement) : Statement :=
  ⟨String.intercalate separator (fragments.map Statement.text), fragments.flatMap Statement.params⟩

/-- Question marks for a number of parameters, between commas. -/
def placeholders (count : Nat) : String := String.intercalate ", " (List.replicate count "?")

end Statement
end DocTable
