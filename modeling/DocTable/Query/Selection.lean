/-
# Selections

The parts of a selection and the statement that they make: a select list, a source, a condition, a
grouping, an order and bounds. Parts that are empty leave no clause.
-/
import DocTable.Query.Condition

namespace DocTable

/-- The parts of a selection. -/
structure Selection where
  /-- The expressions selected; everything if there are none. -/
  columns : List String
  /-- The clauses that have to hold. -/
  conditions : List Statement
  /-- The grouping expressions. -/
  grouping : List String
  /-- The sort keys. -/
  order : List String
  /-- The tail for limit and offset. -/
  bounds : String

namespace Selection

/-- A clause of a list of expressions; none if there are no expressions. -/
def listClause (keyword : String) (expressions : List String) : String :=
  if expressions.isEmpty then "" else keyword ++ String.intercalate ", " expressions

/-- The statement of a selection from a table. -/
def statement (s : Selection) (table : String) : Statement :=
  let condition := (conjoin s.conditions).getD .empty
  ⟨"SELECT " ++ (if s.columns.isEmpty then "*" else String.intercalate ", " s.columns)
    ++ " FROM " ++ Dialect.quote table
    ++ Dialect.whereClause condition.text
    ++ listClause " GROUP BY " s.grouping
    ++ listClause " ORDER BY " s.order
    ++ (if s.bounds.isEmpty then "" else " " ++ s.bounds), condition.params⟩

end Selection
end DocTable
