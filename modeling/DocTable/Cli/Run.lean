/-
# Running a command

A command reads the settings, then all schemas of its file, and only then opens a database. What it
shows is a text that the way in which it ended determines.
-/
import DocTable.Cli.Arguments
import DocTable.Cli.Workspace
import DocTable.Json.Outline
import DocTable.Json.Reader
import DocTable.Model.Basic
import DocTable.Schema.Describe
import DocTable.Settings
import DocTable.Sync.Run

namespace DocTable
namespace Cli

/-- How a command can end. -/
inductive Ending where
  /-- Help was asked for. -/
  | help
  /-- The arguments were not in order. -/
  | misuse
  /-- The file has no entity of that name. -/
  | noEntity (entity file : String)
  /-- The schemas were described. -/
  | described (schemas : List EntitySchema)
  /-- The changes were planned. -/
  | planned (entries : List String)
  /-- The changes were applied as far as possible. -/
  | synchronized (report : Report)

/-- How deep lists and objects may be nested in a file of schemas. -/
def fileNesting : Nat := 988

/-- How deep definitions of fields may be nested in a file of schemas. -/
def definitionNesting : Nat := 494

/-- The fault of a file that cannot be read as JSON. -/
def problemFault : Json.Problem → Fault
  | .malformed => .malformedJson
  | .longInteger => .meaningless "an integer has too many digits"
  | .tooDeep => .tooDeep

/-- The fields of a definition in a file of schemas. -/
def readFields (definition : Value) : Except Fault Fields := do
  let fields ← Fields.ofDefinition definition
  if definitionNesting < Fields.depth fields then throw .tooDeep else return fields

/-- The schemas that the text of a file defines, by the names of their entities. -/
def readSchemas (text : String) : Except Fault (List EntitySchema) :=
  match Json.read fileNesting text with
  | .error problem => .error (problemFault problem)
  | .ok definitions => do
    (← definitions.entries).mapM fun (name, definition) => do
      return ⟨name.plain, ← readFields definition⟩

/-- The schemas of the file that an option names; an option without a value names no file. -/
def loadSchemas (workspace : Workspace) (file : Option String) : Except Fault (List EntitySchema) :=
  match file with
  | some path => (workspace.read path).bind readSchemas
  | none => .error (.unfit "the option has left no path of a file")

/-- The description of schemas as a text. -/
def describeSchemas (schemas : List EntitySchema) : String :=
  Json.outline 0
    (.map (schemas.map fun schema =>
      (.text schema.entityName, .map (Fields.describe schema.fields))))

/-- The first of two texts that is given and not empty. -/
def givenOr (given : Option String) (default : String) : String :=
  match given with
  | some text => if text.isEmpty then default else text
  | none => default

/-- The synchronizer of a schema; the table has the name that is given or the one derived from the
entity. -/
def synchronizerFor (settings : Settings) (target : Target) (schema : EntitySchema) :
    Synchronizer :=
  { dialect := ⟨.sqlite, settings.varcharLength⟩
    table := givenOr target.table (tableNameFor schema.entityName settings.tableSuffix)
    fields := schema.fields }

/-- What is shown for a planned change: its statement, or a remark if it has none. -/
def planEntry (c : Change) : String := givenOr c.statement ("-- unsupported: " ++ c.text)

/-- What is shown for the changes that a table needs. -/
def planEntries {σ : Type} [Store σ] (synchronizer : Synchronizer) (store : σ) :
    Except Fault (List String) × σ :=
  let (answer, store) := synchronizer.plan store
  (answer.map fun plan => plan.2.map planEntry, store)

/-- Plans the changes that a table needs. -/
def planTarget (synchronizer : Synchronizer) (connection : Connection) :
    Except Fault Ending × Connection :=
  let (answer, connection) := planEntries synchronizer connection
  (answer.map .planned, connection)

/-- Applies the changes that a table needs. -/
def syncTarget (synchronizer : Synchronizer) (connection : Connection) :
    Except Fault Ending × Connection :=
  let (report, s) := synchronizer.run (.start connection)
  (.ok (.synchronized report), s.store)

/-- The schema of the entity of a target, if its file has one; an option without a value names no
entity. -/
def findSchema (workspace : Workspace) (target : Target) :
    Except Fault (Option EntitySchema) := do
  let schemas ← loadSchemas workspace target.file
  match target.entity with
  | some name => return schemas.find? fun schema => schema.entityName == name
  | none => throw (.unfit "the option has left no name of an entity")

/-- Runs an action on the target of a command, with the database open as long as it takes. -/
def runTarget (settings : Settings) (target : Target) (workspace : Workspace)
    (action : Synchronizer → Connection → Except Fault Ending × Connection) :
    Except Fault Ending × Workspace :=
  match findSchema workspace target with
  | .error fault => (.error fault, workspace)
  | .ok none => (.ok (.noEntity (target.entity.getD "") (target.file.getD "")), workspace)
  | .ok (some schema) =>
    let (connection, place, workspace) :=
      workspace.openDatabase (givenOr target.database settings.database)
    let (answer, connection) := action (synchronizerFor settings target schema) connection
    (answer, workspace.close place connection)

/-- The settings of the environment, provided that their log level can be used. -/
def readSettings (environment : Environment) : Except Fault Settings := do
  let settings ← Settings.resolve [] environment
  let _ ← settings.logThreshold
  return settings

/-- Runs a command. -/
def runCommand (environment : Environment) (command : Command) (workspace : Workspace) :
    Except Fault Ending × Workspace :=
  match readSettings environment with
  | .error fault => (.error fault, workspace)
  | .ok settings =>
    match command with
    | .describe file =>
      ((loadSchemas workspace file).map .described, workspace)
    | .plan target => runTarget settings target workspace planTarget
    | .sync target => runTarget settings target workspace syncTarget

/-- Runs the command that the arguments give. -/
def run (environment : Environment) (arguments : List String) (workspace : Workspace) :
    Except Fault Ending × Workspace :=
  match readArguments arguments with
  | .error .help => (.ok .help, workspace)
  | .error .misuse => (.ok .misuse, workspace)
  | .ok command => runCommand environment command workspace

/-- The paths that a run may read or write. -/
def pathsOf (environment : Environment) (arguments : List String) : List String :=
  match readArguments arguments, Settings.resolve [] environment with
  | .ok (.describe file), _ => file.toList
  | .ok (.plan target), .ok settings =>
    target.file.toList ++ [givenOr target.database settings.database]
  | .ok (.sync target), .ok settings =>
    target.file.toList ++ [givenOr target.database settings.database]
  | _, _ => []

/-- How commands are written. -/
def usage : String :=
  "usage: describe --file FILE\n"
    ++ "       plan --file FILE --entity ENTITY [--database DATABASE] [--table TABLE]\n"
    ++ "       sync --file FILE --entity ENTITY [--database DATABASE] [--table TABLE]\n"

/-- Lines, each of them ended. -/
def linesText (lines : List String) : String := String.join (lines.map fun line => line ++ "\n")

/-- The lines for planned changes. -/
def planLines (entries : List String) : List String :=
  if entries.isEmpty then ["Table is up to date"] else entries.map fun entry => entry ++ ";"

/-- The lines for a synchronization: what was applied, what was not, and whether the table could not
even be inspected. -/
def reportLines (r : Report) : List String :=
  (r.applied.map fun c => "  [OK] " ++ c.text)
    ++ (r.failed.map fun entry => "  [FAILED] " ++ entry.1.text ++ ": " ++ entry.2.message)
    ++ (r.error.map fun failure =>
          "Could not inspect table " ++ r.table ++ ": " ++ failure.message).toList

namespace Ending

/-- The text that is shown. -/
def output : Ending → String
  | help => usage
  | misuse | noEntity _ _ => ""
  | described schemas => describeSchemas schemas ++ "\n"
  | planned entries => linesText (planLines entries)
  | synchronized report => linesText (reportLines report)

/-- The text that tells what went wrong, if anything did. -/
def complaint? : Ending → Option String
  | misuse => some usage
  | noEntity entity file => some ("Entity '" ++ entity ++ "' not found in " ++ file ++ "\n")
  | _ => none

/-- The exit code of the program. -/
def exitCode : Ending → Nat
  | misuse | noEntity _ _ => 2
  | synchronized report => if report.isOk then 0 else 1
  | _ => 0

end Ending
end Cli
end DocTable
