/-
# Synchronizing a table

A synchronization asks the store for the table, plans the changes and applies them one by one. It
never fails as a whole: a change that cannot be applied is logged and reported, and the rest go on.
A store that cannot be inspected is reported too, and then nothing is applied.
-/
import DocTable.Store.Basic
import DocTable.Sync.Plan

namespace DocTable

/-- What is to be synchronized: a table with its declared fields. -/
structure Synchronizer where
  /-- The dialect of the statements. -/
  dialect : Dialect
  /-- The table. -/
  table : String
  /-- The declared fields. -/
  fields : Fields

/-- The report of a synchronization. -/
structure Report where
  /-- The table. -/
  table : String
  /-- Whether the table existed before. -/
  existed : Bool
  /-- The changes that were applied, in order. -/
  applied : List Change
  /-- The changes that were not applied, in order, and why. -/
  failed : List (Change × Failure)
  /-- Why the table could not be inspected, if it could not. -/
  error : Option Failure

namespace Report

/-- The report at the start of a synchronization. -/
def start (table : String) (existed : Bool) : Report := ⟨table, existed, [], [], none⟩

/-- Whether everything was inspected and applied. -/
def isOk (r : Report) : Bool := r.error.isNone && r.failed.isEmpty

end Report

namespace Synchronizer

variable {σ : Type}

/-- Whether the table exists, and the changes that it needs. -/
def plan [Store σ] (t : Synchronizer) (store : σ) : Except Fault (Bool × List Change) × σ :=
  match Store.tableExists t.table store with
  | (.error fault, store) => (.error fault, store)
  | (.ok false, store) =>
    ((planCreate t.dialect t.table t.fields).map fun changes => (false, changes), store)
  | (.ok true, store) =>
    match Store.describeColumns t.table store with
    | (.error fault, store) => (.error fault, store)
    | (.ok columns, store) =>
      ((planAlter t.dialect t.table columns t.fields).map fun changes => (true, changes), store)

/-- A text or nothing, as a value. -/
def optionalText (s : Option String) : Value := (s.map Value.text).getD .null

/-- The failure of a change. -/
def changeFailure (t : Synchronizer) (c : Change) (message : String) (statement : Option String) :
    Failure :=
  .structural message (.text t.table) (optionalText c.column) (optionalText statement)

/-- Why a change without a statement is not applied. -/
def unsupportedMessage (t : Synchronizer) (c : Change) : String :=
  "Dialect '" ++ t.dialect.name ++ "' cannot change the type of " ++ c.path ++ " from "
    ++ Change.typeText c.oldType ++ " to " ++ Change.typeText c.newType

/-- Applies one change: nothing if it was applied, otherwise why it was not. -/
def applyChange [Store σ] (t : Synchronizer) (c : Change) (s : Surroundings σ) :
    Option Failure × Surroundings σ :=
  match c.statement with
  | none =>
    let message := t.unsupportedMessage c
    (some (t.changeFailure c message none), s.note .warning message)
  | some text =>
    match s.execute (.plain text) with
    | (.error fault, s) =>
      (some (t.changeFailure c fault.message (some text)),
        s.note .error ("Failed to apply " ++ c.text ++ ": " ++ fault.message))
    | (.ok _, s) => (none, s.note .info ("Applied " ++ c.text))

/-- Applies changes in order and adds each to the report. -/
def applyChanges [Store σ] (t : Synchronizer) :
    List Change → Report → Surroundings σ → Report × Surroundings σ
  | [], report, s => (report, s)
  | c :: rest, report, s =>
    match t.applyChange c s with
    | (none, s) => t.applyChanges rest { report with applied := report.applied ++ [c] } s
    | (some failure, s) =>
      t.applyChanges rest { report with failed := report.failed ++ [(c, failure)] } s

/-- What is logged before the changes are applied. -/
def announcement (t : Synchronizer) (existed : Bool) (changes : List Change) : String :=
  if existed then
    "Checking table " ++ t.table ++ " structure: " ++ Nat.repr changes.length
      ++ " change(s) needed"
  else "Creating table " ++ t.table

/-- Runs a synchronization. -/
def run [Store σ] (t : Synchronizer) (s : Surroundings σ) : Report × Surroundings σ :=
  match t.plan s.store with
  | (.error fault, store) =>
    ({ Report.start t.table false with
        error := some (.structural fault.message (.text t.table) .null .null) },
      { s with store := store }.note .error
        ("Could not inspect table " ++ t.table ++ ": " ++ fault.message))
  | (.ok (existed, changes), store) =>
    t.applyChanges changes (.start t.table existed)
      ({ s with store := store }.note .info (t.announcement existed changes))

end Synchronizer
end DocTable
