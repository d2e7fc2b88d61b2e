/-
# Stores

The boundary behind which statements are executed. A store answers three questions: what a statement
gives, whether a table exists, and which columns a table has. Each answer can be a fault, and each
leaves the store in a new state. What an application tells about itself goes into a log.
-/
import DocTable.Codec.Defaults
import DocTable.Column
import DocTable.Statement

namespace DocTable

/-- The answer of a store to a statement. -/
inductive Answer where
  /-- The rows that a statement selects. -/
  | rows (rows : List Entries)
  /-- The identity of an inserted row, and the number of rows affected. -/
  | written (insertedId : Option Int) (affected : Int)

/-- A type of stores. -/
class Store (σ : Type) where
  /-- The answer to a statement. -/
  execute : Statement → σ → Except Fault Answer × σ
  /-- Whether a table exists. -/
  tableExists : String → σ → Except Fault Bool × σ
  /-- The columns of a table. -/
  describeColumns : String → σ → Except Fault (List Column) × σ

/-- The levels of log entries. -/
inductive LogLevel where
  | info | warning | error
deriving DecidableEq

/-- An entry of a log. -/
structure LogEntry where
  /-- The level of the entry. -/
  level : LogLevel
  /-- The message of the entry. -/
  message : String

/-- What operations act on: a store, the log, and the draws from producers so far. -/
structure Surroundings (σ : Type) where
  /-- The store. -/
  store : σ
  /-- The log, oldest entry first. -/
  log : List LogEntry
  /-- The draws from producers. -/
  draws : Codec.Draws

namespace Surroundings

variable {σ : Type}

/-- The surroundings at the start: nothing logged and nothing drawn. -/
def start (store : σ) : Surroundings σ := ⟨store, [], Codec.noDraws⟩

/-- The surroundings with one more log entry. -/
def note (s : Surroundings σ) (level : LogLevel) (message : String) : Surroundings σ :=
  { s with log := s.log ++ [⟨level, message⟩] }

/-- The answer of the store to a statement. -/
def execute [Store σ] (s : Surroundings σ) (statement : Statement) :
    Except Fault Answer × Surroundings σ :=
  let (answer, store) := Store.execute statement s.store
  (answer, { s with store := store })

end Surroundings
end DocTable
