/-
# Scripted stores

A store that answers by a script and records the statements it is given. The tables it reports are
those of the script, whatever statements are executed. Selections take their rows from a queue,
insertions are numbered, and all other writes take their counts from a second queue.
-/
import DocTable.Store.Basic

namespace DocTable

/-- The script of a scripted store. -/
structure Script where
  /-- The tables and their columns. -/
  tables : List (String × List Column)
  /-- A statement that contains one of these texts fails. -/
  failing : List String
  /-- The message with which the question for a table fails. -/
  inspectError : Option String
  /-- The message with which the question for columns fails. -/
  describeError : Option String
  /-- The rows of the selections to come. -/
  rows : List (List Entries)
  /-- Whether insertions take rows as selections do. -/
  insertsGiveRows : Bool
  /-- The counts of the other writes to come. -/
  affected : List Int

/-- A scripted store. -/
structure ScriptedStore where
  /-- The script from here on. -/
  script : Script
  /-- The identity of the next row inserted. -/
  nextId : Int
  /-- The statements so far, failed ones included. -/
  executed : List Statement

namespace ScriptedStore

/-- The message of a failing statement. -/
def failureMessage : String := "simulated failure"

/-- Whether a statement fails. -/
def fails (s : ScriptedStore) (statement : Statement) : Bool :=
  s.script.failing.any fun part => Text.contains statement.text part

/-- The next rows in the queue; no rows once it is used up. -/
def takeRows (s : ScriptedStore) : Answer × ScriptedStore :=
  match s.script.rows with
  | [] => (.rows [], s)
  | rows :: rest => (.rows rows, { s with script := { s.script with rows := rest } })

/-- The next number of an inserted row. -/
def insertRow (s : ScriptedStore) : Answer × ScriptedStore :=
  (.written (some s.nextId) 1, { s with nextId := s.nextId + 1 })

/-- The next count in the queue; one once it is used up. -/
def takeCount (s : ScriptedStore) : Answer × ScriptedStore :=
  match s.script.affected with
  | [] => (.written none 1, s)
  | count :: rest =>
    (.written none count, { s with script := { s.script with affected := rest } })

/-- The answer to a statement that does not fail. -/
def answer (s : ScriptedStore) (text : String) : Answer × ScriptedStore :=
  if "SELECT".toList.isPrefixOf text.toList then s.takeRows
  else if "INSERT".toList.isPrefixOf text.toList then
    if s.script.insertsGiveRows then s.takeRows else s.insertRow
  else s.takeCount

/-- Records a statement. -/
def record (s : ScriptedStore) (statement : Statement) : ScriptedStore :=
  { s with executed := s.executed ++ [statement] }

/-- The answer to a statement. -/
def execute (statement : Statement) (s : ScriptedStore) : Except Fault Answer × ScriptedStore :=
  let s := s.record statement
  if s.fails statement then
    (.error (.failure (.rejected failureMessage (.text statement.text) statement.params)), s)
  else
    let (answer, s) := s.answer statement.text
    (.ok answer, s)

/-- The answer to a question, or the failure that the script has for it. -/
def answerUnless {α : Type} (failure : Option String) (answer : α) : Except Fault α :=
  match failure with
  | some message => .error (.failure (.rejected message .null []))
  | none => .ok answer

instance : Store ScriptedStore where
  execute := execute
  tableExists table s :=
    (answerUnless s.script.inspectError (s.script.tables.lookup table).isSome, s)
  describeColumns table s :=
    (answerUnless s.script.describeError ((s.script.tables.lookup table).getD []), s)

end ScriptedStore
end DocTable
