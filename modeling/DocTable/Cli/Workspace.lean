/-
# Workspaces

The files that a command line can reach: texts, databases and directories, each at the names that
lead to it from the directory where the program runs. Names are followed one by one. Reading a file
needs every name on the way to be a directory; opening a database makes those that are missing, and
what has been made before one cannot be made stays.
-/
import DocTable.Fault
import DocTable.Store.CatalogueText

namespace DocTable
namespace Cli

/-- The names that lead to a file or directory. An absolute one starts with the empty name. -/
abbrev Location := List String

/-- What a location holds. -/
inductive Entry where
  /-- A directory. -/
  | directory
  /-- A file that is a text. -/
  | text (content : String)
  /-- A file that is a database. -/
  | database (tables : Catalogue)

/-- A workspace: its files and directories, apart from the directory it starts from. -/
structure Workspace where
  /-- The entries and their locations. -/
  entries : List (Location × Entry)

/-- What a file of some content holds. -/
def Entry.ofContent (content : String) : Entry :=
  match Catalogue.read? content with
  | some tables => .database tables
  | none => .text content

/-- The name of the directory itself. -/
def sameDirectory : String := "."

/-- The name of the directory above. -/
def parentDirectory : String := ".."

namespace Location

/-- The names between the slashes of a path; an empty one in the middle or at the end stays in the
same directory. -/
def names (path : String) : List String :=
  let pieces := (Text.splitOn '/' path.toList).map String.ofList
  match pieces with
  | [] => []
  | first :: rest => first :: rest.map fun name => if name.isEmpty then sameDirectory else name

/-- The names of a path that lead somewhere else. -/
def movingNames (path : String) : List String :=
  (names path).filter (· != sameDirectory)

/-- The path of names. -/
def text (names : List String) : String :=
  match names with
  | [] => sameDirectory
  | [""] => "/"
  | names => String.intercalate "/" names

/-- The location that a name leads to; of names with the same bytes all lead to one. The directory
above the one where the program runs has no other name, and above the topmost one there is none. -/
def step (here : Location) (name : String) : Location :=
  if name = sameDirectory then here
  else if name = parentDirectory then
    if here = [""] then here
    else if here.all (· == parentDirectory) then here ++ [parentDirectory]
    else here.dropLast
  else here ++ [Text.sameName name]

/-- Every location on the way from a location along names. -/
def along (here : Location) : List String → List Location
  | [] => []
  | name :: rest => step here name :: along (step here name) rest

end Location

namespace Workspace

/-- The empty workspace. -/
def empty : Workspace := ⟨[]⟩

/-- What a location holds, if anything. The directory where the program runs, those above it and the
topmost one are always there. -/
def entry? (w : Workspace) (place : Location) : Option Entry :=
  if place.all (· == parentDirectory) ∨ place = [""] then some .directory
  else w.entries.lookup place

/-- The workspace with an entry at a location, in place of the one there. -/
def put (w : Workspace) (place : Location) (entry : Entry) : Workspace :=
  ⟨(place, entry) :: w.entries.filter fun other => other.1 != place⟩

/-! ## Reading files -/

/-- The greatest number of bytes in a name. -/
def nameLimit : Nat := 255

/-- The greatest number of bytes in a path. -/
def pathLimit : Nat := 4095

/-- Follows names from a location; each has to start from a directory. -/
def follow (w : Workspace) (here : Location) : List String → Except FileProblem Location
  | [] => .ok here
  | name :: rest =>
    match w.entry? here with
    | none => .error .missing
    | some .directory =>
      if nameLimit < Text.nameSize name then .error .longName
      else w.follow (Location.step here name) rest
    | some _ => .error .notDirectory

/-- The entry that names lead to. -/
def entryAlong (w : Workspace) (names : List String) : Except FileProblem Entry := do
  let place ← w.follow [] names
  match w.entry? place with
  | some entry => return entry
  | none => throw .missing

/-- The entry at a path. -/
def locate (w : Workspace) (path : String) : Except FileProblem Entry :=
  if path.isEmpty then .error .missing
  else if pathLimit < Text.nameSize path then .error .longName
  else w.entryAlong (Location.names path)

/-- The fault of a path that can be none, if it can be none: it can be neither with a half of a pair
that stands for no byte nor with the character of number zero. -/
def pathFault? (path : String) : Option Fault :=
  if (Text.nameBytes? path).isNone then some (.unnamable path)
  else if path.toList.contains '\x00' then some (.meaningless "embedded null byte")
  else none

/-- The text of the file at a path. A database without tables is a file without content. -/
def read (w : Workspace) (path : String) : Except Fault String :=
  match pathFault? path, w.locate path with
  | some fault, _ => .error fault
  | none, .error problem => .error (.file problem path)
  | none, .ok .directory => .error (.file .isDirectory path)
  | none, .ok (.text content) => .ok content
  | none, .ok (.database tables) => if tables.isEmpty then .ok "" else .error .notText

/-! ## Making directories -/

/-- Makes the directory that names lead to. Everything before the last name has to be there, and the
last must not be. -/
def makeDirectory (w : Workspace) (names : List String) : Except FileProblem Workspace :=
  match names.getLast? with
  | none => .error .occupied
  | some last => do
    if names = [""] then throw .occupied
    let here ← w.follow [] names.dropLast
    match w.entry? here with
    | none => throw .missing
    | some .directory =>
      let place := Location.step here last
      if nameLimit < Text.nameSize last then throw .longName
      else if (w.entry? place).isSome then throw .occupied
      else return w.put place .directory
    | some _ => throw .notDirectory

/-- Whether names lead to a directory. -/
def isDirectory (w : Workspace) (names : List String) : Bool :=
  match w.entryAlong names with
  | .ok .directory => true
  | _ => false

/-- Makes sure of the directory that names lead to, provided that all before it are there. -/
def ensureLast (w : Workspace) (names : List String) : Except FileProblem Workspace :=
  match w.makeDirectory names with
  | .ok w => .ok w
  | .error problem => if w.isDirectory names then .ok w else .error problem

/-- Makes sure of the directory that names lead to, which are given from the last to the first.
Where one before the last is missing, all before it are made sure of first. The fault tells the
names that could not be made a directory. -/
def ensureBackwards (w : Workspace) : List String → Option Fault × Workspace
  | [] => (none, w)
  | last :: before =>
    let names := (last :: before).reverse
    match w.ensureLast names with
    | .ok w => (none, w)
    | .error .missing =>
      match w.ensureBackwards before with
      | (some fault, w) => (some fault, w)
      | (none, w) =>
        match w.ensureLast names with
        | .ok w => (none, w)
        | .error problem => (some (.file problem (Location.text names)), w)
    | .error problem => (some (.file problem (Location.text names)), w)

/-- Makes sure of the directory that names lead to. -/
def ensureDirectory (w : Workspace) (names : List String) : Option Fault × Workspace :=
  match pathFault? (Location.text names) with
  | some fault => (some fault, w)
  | none => w.ensureBackwards names.reverse

/-! ## Databases -/

/-- The paths of databases that are kept in memory only. -/
def isTransient (path : String) : Bool := path.isEmpty || path == ":memory:"

/-- The greatest number of bytes in the path of a database. -/
def databasePathLimit : Nat := 493

/-- Whether a file of some content counts as empty where a database is opened. -/
def isBlankFile (content : String) : Bool := decide (content.utf8ByteSize ≤ 1)

/-- The greatest number of bytes in the name of a database that can be changed: a change needs a
second file beside it, whose name is eight bytes longer. -/
def changeableNameLimit : Nat := nameLimit - 8

/-- The message for a database that cannot be opened. -/
def unopenedMessage : String := "unable to open database file"

/-- The connection to tables that are kept at a location. -/
def connectionAt (place : Location) (tables : Catalogue) : Connection :=
  if changeableNameLimit < Text.nameSize (place.getLast?.getD "") then
    .unchangeable tables unopenedMessage
  else .made tables

/-- The connection to the database that a location holds; a file without content is a database
without tables. -/
def connectionTo (w : Workspace) (place : Location) : Connection :=
  match w.entry? place with
  | none => connectionAt place []
  | some .directory => .rejecting unopenedMessage
  | some (.text content) =>
    if isBlankFile content then connectionAt place [] else .rejecting "file is not a database"
  | some (.database tables) => connectionAt place tables

/-- Opens the database that names lead to in a directory that is there: the connection, and the
location that keeps the database. -/
def openAlong (w : Workspace) (path : String) (names : List String) :
    Connection × Option Location :=
  match pathFault? path, w.follow [] names with
  | some fault, _ => (.impossible fault, none)
  | none, .error _ => (.rejecting unopenedMessage, none)
  | none, .ok place =>
    if databasePathLimit < Text.nameSize (Location.text place) then
      (.rejecting unopenedMessage, none)
    else (w.connectionTo place, some place)

/-- Opens the database at a path: the connection, the location that keeps the database unless it is
only kept in memory, and the workspace with the directories made on the way. -/
def openDatabase (w : Workspace) (path : String) : Connection × Option Location × Workspace :=
  if isTransient path then (.made [], none, w)
  else
    let names := Location.movingNames path
    match w.ensureDirectory names.dropLast with
    | (some fault, w) => (.impossible fault, none, w)
    | (none, w) =>
      let (connection, place) := w.openAlong path names
      (connection, place, w)

/-- The workspace after a connection has been closed: the location keeps the tables of the database.
A file that is there and still without tables stays as it is. -/
def close (w : Workspace) (place : Option Location) (connection : Connection) : Workspace :=
  match place, connection with
  | some place, .made tables | some place, .unchangeable tables _ =>
    if tables.isEmpty && (w.entry? place).isSome then w else w.put place (.database tables)
  | _, _ => w

end Workspace
end Cli
end DocTable
