/-
# Causes of failure

Every way in which an operation of the library can fail, and the message of each. A `Failure` is a
failure of the document layer itself and carries a code and details; the others say that an argument
has the wrong shape, that a setting is invalid or that a file cannot be used.
-/
import DocTable.Text.FileName
import DocTable.Value.Entries
import DocTable.Value.Display

namespace DocTable

/-- The kinds of failure of the document layer. -/
inductive FailureKind where
  /-- Any failure of the layer. -/
  | general
  /-- The store rejected a statement. -/
  | statement
  /-- A structural statement failed while a table was synchronized. -/
  | structural
  /-- No model is registered under a name. -/
  | unregistered
deriving DecidableEq

/-- A failure of the document layer. -/
structure Failure where
  /-- The kind of the failure. -/
  kind : FailureKind
  /-- What happened. -/
  message : String
  /-- The code of the failure. -/
  code : String
  /-- What the failure is about, as a mapping. -/
  details : Value

/-- What is wrong with a setting. -/
inductive SettingProblem where
  /-- There is no setting of that name. -/
  | unknownName
  /-- The value is not one of the words allowed. -/
  | notAllowed
  /-- The number is not positive. -/
  | notPositive
  /-- The value cannot be read as a whole number. -/
  | notWhole
  /-- The text cannot be read as a whole number. -/
  | unreadableNumber
  /-- The value cannot be taken for a whole number at all. -/
  | notNumber
  /-- The value is not a text. -/
  | notText
  /-- The number is not finite. -/
  | notFinite
  /-- The number has too many digits. -/
  | tooLong
  /-- The bytes or the text are no text that could be written. -/
  | notUnicode
deriving DecidableEq

/-- Why a file or directory cannot be used. -/
inductive FileProblem where
  /-- There is none of that name. -/
  | missing
  /-- It is a directory. -/
  | isDirectory
  /-- A part of the path is not a directory. -/
  | notDirectory
  /-- There is already a file of that name. -/
  | occupied
  /-- A name is longer than any name can be. -/
  | longName
deriving DecidableEq

/-- A cause of failure. -/
inductive Fault where
  /-- A value has no member of that name. -/
  | lacks (owner : Value) (member : String)
  /-- A value does not support what is asked of it. -/
  | unfit (reason : String)
  /-- An argument of the right shape has no meaning. -/
  | meaningless (reason : String)
  /-- A result lies outside its range. -/
  | outOfRange (reason : String)
  /-- A sequence has no item at an index. -/
  | noItem
  /-- What is no number was compared with a number, and signals that. -/
  | incomparable
  /-- Values are nested too deeply. -/
  | tooDeep
  /-- Something that is not a value, of a kind that has a name, has no member of that name. -/
  | lacksMember (owner member : String)
  /-- There is no dialect of that name. -/
  | unknownDialect (name : String)
  /-- A query without a store was executed. -/
  | noStore
  /-- A call with a callback was made with nothing running that could complete it. -/
  | nothingRunning
  /-- The operation was cancelled before it started. -/
  | cancelled
  /-- A failure of the document layer. -/
  | failure (f : Failure)
  /-- Some settings are invalid. -/
  | invalidSettings (problems : List (String × SettingProblem))
  /-- A file does not hold JSON text. -/
  | malformedJson
  /-- A file does not hold text at all. -/
  | notText
  /-- A text cannot be written, since it has halves of pairs that stand alone. -/
  | unwritable (text : String)
  /-- A text cannot be a name in bytes, since it has halves of pairs that stand for no byte. -/
  | unnamable (text : String)
  /-- A file cannot be used. -/
  | file (problem : FileProblem) (path : String)

namespace Failure

/-- A failure of the general kind; a missing code or missing details have defaults. -/
def general (message : String) (code : String) (details : Value) : Failure :=
  { kind := .general
    message := message
    code := if code.isEmpty then "MOOSE_ERROR" else code
    details := details.orElse (.map []) }

/-- The store rejected a statement. -/
def rejected (message : String) (statement : Value) (params : List Value) : Failure :=
  { kind := .statement
    message := message
    code := "STATEMENT_EXECUTION_ERROR"
    details := .map [(.text "statement", statement), (.text "params", .list params)] }

/-- A structural statement failed. -/
def structural (message : String) (table column statement : Value) : Failure :=
  { kind := .structural
    message := message
    code := "STRUCTURAL_SYNC_ERROR"
    details :=
      .map [(.text "table", table), (.text "column", column), (.text "statement", statement)] }

/-- No model is registered under a name. -/
def unregistered (name : Value) : Failure :=
  { kind := .unregistered
    message := "Model '" ++ name.plain ++ "' is not registered and no schema was given"
    code := "MODEL_NOT_REGISTERED"
    details := .map [(.text "name", name)] }

end Failure

namespace FileProblem

/-- The number and the text of a file problem. -/
def description : FileProblem → String
  | missing => "[Errno 2] No such file or directory"
  | isDirectory => "[Errno 21] Is a directory"
  | notDirectory => "[Errno 20] Not a directory"
  | occupied => "[Errno 17] File exists"
  | longName => "[Errno 36] File name too long"

end FileProblem

namespace Fault

/-- The message for a text that cannot be written, given the place of the first half that is in the
way and how many stand there in a row. -/
def unwritableMessage (text : String) (halves : Option (Nat × Nat)) : String :=
  "'utf-8' codec can't encode "
    ++ (match halves with
        | some (place, 1) =>
          "character '"
            ++ String.ofList (Text.pointEscape
                (((Text.codePoints text.toList)[place]?).getD 0))
            ++ "' in position " ++ Nat.repr place
        | some (place, count) =>
          "characters in position " ++ Nat.repr place ++ "-" ++ Nat.repr (place + count - 1)
        | none => "text")
    ++ ": surrogates not allowed"

/-- The message of a fault. -/
def message : Fault → String
  | lacks owner member =>
    (match owner with
      | .type marker => "type object '" ++ marker.qualifiedName ++ "'"
      | value => "'" ++ value.typeName ++ "' object")
      ++ " has no attribute '" ++ member ++ "'"
  | unfit reason => reason
  | meaningless reason => reason
  | outOfRange reason => reason
  | noItem => "list index out of range"
  | incomparable => "what is no number cannot be compared with a number"
  | tooDeep => "maximum recursion depth exceeded"
  | lacksMember owner member => "'" ++ owner ++ "' object has no attribute '" ++ member ++ "'"
  | unknownDialect name =>
    "Unknown dialect '" ++ name ++ "'. Valid dialects: ['mysql', 'sqlite']"
  | noStore => "Query has no executor"
  | nothingRunning =>
    "Callback-style calls must be made from a running event loop; await the operation instead"
  | cancelled => ""
  | failure f => f.message
  | invalidSettings _ => "the settings are invalid"
  | malformedJson => "the text is not JSON"
  | notText => "the file is not text"
  | unwritable text => unwritableMessage text (Text.loneHalves? text)
  | unnamable text => unwritableMessage text (Text.refusedHalves? text)
  | file problem path => problem.description ++ ": " ++ Text.quoted path

end Fault
end DocTable
