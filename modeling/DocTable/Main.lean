/-
# The program

Gathers what the arguments can reach into a workspace, runs the command in it, and writes the
database back if it has changed.
-/
import DocTable.Cli.Run

namespace DocTable
namespace Program

/-- The variables of the environment that are settings. -/
def readEnvironment : IO Environment := do
  let mut found := []
  for name in Settings.names do
    let spelled := Settings.variableStart ++ name
    for spelling in [spelled, Text.asciiUpper spelled] do
      if let some text ← IO.getEnv spelling then found := found ++ [(spelling, text)]
  return found

/-- The number of the fault of reading a directory. -/
def directoryFault : UInt32 := 21

/-- The content of a file that is not a text: neither JSON nor a database. -/
def unreadable : String := "\x00"

/-- What stands at a path, with its content if it is a file. -/
def inspect (path : String) : IO (Option (Cli.Entry × Option String)) := do
  try
    let content ← IO.FS.readFile path
    return some (Cli.Entry.ofContent content, some content)
  catch fault =>
    match fault with
    | .noFileOrDirectory _ _ _ => return none
    | .inappropriateType _ code _ =>
      return if code = directoryFault then some (.directory, none) else none
    | _ => return some (.text unreadable, some unreadable)

/-- Gathers what stands on the way along paths: the workspace, and the contents of its files. -/
def gather (paths : List String) :
    IO (Cli.Workspace × List (Cli.Location × String)) := do
  let mut workspace := Cli.Workspace.empty
  let mut contents := []
  for path in paths do
    for place in Cli.Location.along [] (Cli.Location.names path) do
      if let some (entry, content) ← inspect (Cli.Location.text place) then
        workspace := workspace.put place entry
        if let some content := content then contents := (place, content) :: contents
  return (workspace, contents)

/-- Writes the databases of a workspace whose contents have changed. -/
def writeBack (workspace : Cli.Workspace) (contents : List (Cli.Location × String)) : IO Unit := do
  for (place, entry) in workspace.entries do
    if let .database tables := entry then
      let content := tables.print
      if contents.lookup place != some content then
        if place.length > 1 then IO.FS.createDirAll (Cli.Location.text place.dropLast)
        IO.FS.writeFile (Cli.Location.text place) content

end Program
end DocTable

/-- Runs the command that the arguments give. -/
def main (arguments : List String) : IO UInt32 := do
  let environment ← DocTable.Program.readEnvironment
  let paths := (DocTable.Cli.pathsOf environment arguments).filter
    fun path => !DocTable.Cli.Workspace.isTransient path
  let (workspace, contents) ← DocTable.Program.gather paths
  let (answer, workspace) := DocTable.Cli.run environment arguments workspace
  DocTable.Program.writeBack workspace contents
  match answer with
  | .ok ending =>
    IO.print ending.output
    if let some complaint := ending.complaint? then IO.eprint complaint
    return UInt32.ofNat ending.exitCode
  | .error fault =>
    IO.eprintln fault.message
    return 1
