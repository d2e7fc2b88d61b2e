/-
# Executing queries

A query is executed by a store, and the rows of its answer become documents. A query that has been
given no store cannot be executed.
-/
import DocTable.Codec.Decode
import DocTable.Query.Builder
import DocTable.Store.Basic

namespace DocTable

/-- The fault of a statement that was to give rows and did not. -/
def Answer.notRows : Fault := .unfit "the answer of the store holds no rows"

/-- The documents of an answer that holds rows. -/
def Answer.documents (fields : Fields) : Answer → Except Fault (List Value)
  | .rows found => Codec.decodeRows fields found
  | .written .. => .error notRows

namespace Query

variable {σ : Type}

/-- The documents that a query selects. -/
def exec [Store σ] (q : Query) (fields : Fields) (s : Surroundings σ) :
    Except Fault (List Value) × Surroundings σ :=
  match q.compile with
  | .error fault => (.error fault, s)
  | .ok statement =>
    let (answer, s) := s.execute statement
    (answer.bind (Answer.documents fields), s)

/-- The documents that a query selects, if it has been given a store. -/
def execWith [Store σ] (q : Query) (fields : Fields) (store : Option (Surroundings σ)) :
    Except Fault (List Value) × Option (Surroundings σ) :=
  match store with
  | none => (.error .noStore, none)
  | some s =>
    let (documents, s) := q.exec fields s
    (documents, some s)

/-- The first of some documents; nothing if there are none. -/
def firstOf (documents : List Value) : Value := documents.head?.getD .null

end Query
end DocTable
