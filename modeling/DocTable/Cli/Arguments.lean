/-
# Arguments of the command line

The first word names a command; options follow. An option can be shortened to any beginning that
fits no other, its value is the next argument or is attached to it, and the last value given counts.
The mark after which everything is a word leaves no value where it is attached. Whatever looks like
an option is one, except negative numbers and arguments with a blank. Asking for help ends the
reading at that point; every other problem is a misuse.
-/
import DocTable.Text.Class
import DocTable.Text.Basic

namespace DocTable
namespace Cli

/-- What a command is applied to. -/
structure Target where
  /-- The file of the schemas, unless the option has no value. -/
  file : Option String
  /-- The entity in the file, unless the option has no value. -/
  entity : Option String
  /-- The database, if one is given. -/
  database : Option String
  /-- The table, if one is given. -/
  table : Option String

/-- A command. -/
inductive Command where
  /-- Describes all schemas of a file, unless the option has no value. -/
  | describe (file : Option String)
  /-- Shows the statements that a table needs. -/
  | plan (target : Target)
  /-- Applies the statements that a table needs. -/
  | sync (target : Target)

/-- Why arguments are not a command. -/
inductive Refusal where
  /-- Help is asked for. -/
  | help
  /-- The arguments are not in order. -/
  | misuse
deriving DecidableEq

/-- The options. -/
inductive Choice where
  | help | file | entity | database | table
deriving DecidableEq

namespace Choice

/-- The long spelling of an option. -/
def long : Choice → String
  | help => "--help"
  | file => "--file"
  | entity => "--entity"
  | database => "--database"
  | table => "--table"

/-- The letter of the short spelling of an option. -/
def letter? : Choice → Option Char
  | help => some 'h'
  | file => some 'f'
  | entity => some 'e'
  | database => some 'd'
  | table => none

/-- Whether a text spells an option in full. -/
def isSpelled (text : List Char) (choice : Choice) : Bool :=
  text == choice.long.toList ||
    match choice.letter? with
    | some letter => text == ['-', letter]
    | none => false

end Choice

/-- What an argument is by its looks. -/
inductive Looks where
  /-- Not an option. -/
  | word
  /-- An option that is not known. -/
  | unknown
  /-- The beginning of several options. -/
  | unclear
  /-- An option, with the value attached to it. -/
  | option (choice : Choice) (attached : Option String)
  /-- A letter of an option, with the characters attached to it. -/
  | letter (choice : Choice) (attached : List Char)

/-- Whether a text is a negative number. -/
def isNegativeNumber (text : List Char) : Bool :=
  match text with
  | '-' :: rest =>
    let rest := if rest.getLast? = some '\n' then rest.dropLast else rest
    let whole := rest.takeWhile Text.isDecimalDigit
    match rest.drop whole.length with
    | [] => !whole.isEmpty
    | c :: fraction => c == '.' && !fraction.isEmpty && fraction.all Text.isDecimalDigit
  | _ => false

/-- What an argument is that spells no option. -/
def looksOfOther (text : List Char) : Looks :=
  if isNegativeNumber text || text.contains ' ' then .word else .unknown

/-- What an argument is that may be the beginning of an option with a value attached. -/
def looksOfBeginning (choices : List Choice) (text : List Char) : Looks :=
  let beginning := text.takeWhile (· != '=')
  let attached :=
    if beginning.length < text.length then
      some (String.ofList (text.drop (beginning.length + 1)))
    else none
  match choices.filter fun choice => beginning.isPrefixOf choice.long.toList with
  | [] => looksOfOther text
  | [choice] => .option choice attached
  | _ => .unclear

/-- What an argument is, given the options there are. -/
def looksOf (choices : List Choice) (argument : String) : Looks :=
  let text := argument.toList
  match choices.find? (Choice.isSpelled text) with
  | some choice => .option choice none
  | none =>
    match text with
    | '-' :: '-' :: _ => looksOfBeginning choices text
    | '-' :: letter :: attached =>
      match choices.find? fun choice => choice.letter? = some letter with
      | some choice => .letter choice attached
      | none => looksOfOther text
    | _ => .word

/-- The argument after which everything is a word. -/
def endOfOptions : String := "--"

/-- Whether an argument can be the value of an option. -/
def isWord (choices : List Choice) (argument : String) : Bool :=
  argument != endOfOptions &&
    match looksOf choices argument with
    | .word => true
    | _ => false

/-- Whether characters are letters that can stand after the letter of help: that letter again, and
at the end any other option that takes its value from what is attached to it or from the next
argument. -/
def areHelpLetters (choices : List Choice) (next : List String) : List Char → Bool
  | [] => true
  | letter :: rest =>
    match choices.find? fun choice => choice.letter? = some letter with
    | none => false
    | some .help => areHelpLetters choices next rest
    | some _ =>
      !rest.isEmpty ||
        match next with
        | argument :: _ => isWord choices argument
        | [] => false

/-- What is attached to a letter; an equals sign may stand between them. -/
def afterEquals : List Char → List Char
  | '=' :: attached => attached
  | attached => attached

/-- Why the letter of help with some characters attached is not a command. -/
def helpRefusal (choices : List Choice) (next : List String) (attached : List Char) : Refusal :=
  let letters := afterEquals attached
  if !letters.isEmpty && areHelpLetters choices next letters then .help else .misuse

/-- The value that is attached to an option; the mark of the end of options leaves none. -/
def attachedValue (attached : String) : Option String :=
  if attached = endOfOptions then none else some attached

/-- The options read so far. -/
structure Reading where
  /-- The values, the latest first. An option can be given without leaving a value. -/
  values : List (Choice × Option String)
  /-- Whether there is an argument that belongs to nothing. -/
  surplus : Bool

namespace Reading

/-- The reading before the first argument. -/
def start : Reading := ⟨[], false⟩

/-- The reading after the value of an option. -/
def put (r : Reading) (choice : Choice) (value : Option String) : Reading :=
  { r with values := (choice, value) :: r.values }

/-- The reading after an argument that belongs to nothing. -/
def withSurplus (r : Reading) : Reading := { r with surplus := true }

/-- The value of an option, if it is given and has left one. -/
def value? (r : Reading) (choice : Choice) : Option String := (r.values.lookup choice).bind id

/-- The value of an option that has to be given. -/
def required (r : Reading) (choice : Choice) : Except Refusal (Option String) :=
  match r.values.lookup choice with
  | some value => .ok value
  | none => .error .misuse

end Reading

/-- Reads the arguments after the name of a command. -/
def readOptions (choices : List Choice) : Reading → List String → Except Refusal Reading
  | r, [] => .ok r
  | r, argument :: rest =>
    if argument = endOfOptions then .ok r.withSurplus
    else
      match looksOf choices argument with
      | .word | .unknown => readOptions choices r.withSurplus rest
      | .unclear => .error .misuse
      | .option .help none => .error .help
      | .option .help (some _) => .error .misuse
      | .letter .help attached => .error (helpRefusal choices rest attached)
      | .option choice (some attached) =>
        readOptions choices (r.put choice (attachedValue attached)) rest
      | .letter choice attached =>
        let attached := String.ofList (afterEquals attached)
        readOptions choices (r.put choice (attachedValue attached)) rest
      | .option choice none =>
        match rest with
        | [] => .error .misuse
        | value :: rest =>
          if isWord choices value then readOptions choices (r.put choice (some value)) rest
          else .error .misuse

/-- Whether an argument is the beginning of several options. -/
def isUnclear (choices : List Choice) (argument : String) : Bool :=
  match looksOf choices argument with
  | .unclear => true
  | _ => false

/-- Reads the options of a command; an unclear one is a misuse wherever it stands. -/
def readAll (choices : List Choice) (arguments : List String) : Except Refusal Reading :=
  if (arguments.takeWhile (· != endOfOptions)).any (isUnclear choices) then .error .misuse
  else readOptions choices .start arguments

/-- The options of a description. -/
def describeChoices : List Choice := [.help, .file]

/-- The options of a plan or a synchronization. -/
def targetChoices : List Choice := [.help, .file, .entity, .database, .table]

/-- A command, unless something was left over. -/
def unlessSurplus (r : Reading) (command : Command) : Except Refusal Command :=
  if r.surplus then .error .misuse else .ok command

/-- Reads what a command is applied to. -/
def readTarget (arguments : List String) (command : Target → Command) :
    Except Refusal Command := do
  let r ← readAll targetChoices arguments
  let file ← r.required .file
  let entity ← r.required .entity
  unlessSurplus r (command ⟨file, entity, r.value? .database, r.value? .table⟩)

/-- Reads the arguments of the command of a name. -/
def readCommand (name : String) (arguments : List String) : Except Refusal Command :=
  match name with
  | "describe" => do
    let r ← readAll describeChoices arguments
    unlessSurplus r (.describe (← r.required .file))
  | "plan" => readTarget arguments .plan
  | "sync" => readTarget arguments .sync
  | _ => .error .misuse

/-- Reads a command. An unknown option before its name is a misuse, but help asked for after it is
still given. -/
def readArguments : List String → Except Refusal Command
  | [] => .error .misuse
  | argument :: rest =>
    if argument = endOfOptions then .error .misuse
    else
      match looksOf [.help] argument with
      | .word => readCommand argument rest
      | .unknown =>
        match readArguments rest with
        | .error .help => .error .help
        | _ => .error .misuse
      | .option _ none => .error .help
      | .letter _ attached => .error (helpRefusal [.help] rest attached)
      | _ => .error .misuse

end Cli
end DocTable
