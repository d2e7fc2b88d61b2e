/-
# Settings

The settings of an application. Each is given directly, or by an environment variable named after it
in any letter case, or has a default; what is given directly comes first. All problems of all
settings are reported together, in the order of their names.
-/
import DocTable.Dialect.Basic
import DocTable.Environment

namespace DocTable

/-- The settings of an application. -/
structure Settings where
  /-- The database of the command line. -/
  database : String
  /-- The name of the dialect. -/
  dialect : String
  /-- The length of bounded text columns. -/
  varcharLength : Int
  /-- The suffix of derived table names. -/
  tableSuffix : String
  /-- The least level of log entries that are written. -/
  logLevel : String
  /-- The form of written log entries. -/
  logFormat : String

namespace Settings

/-- The names of the settings. -/
def names : List String :=
  ["database", "dialect", "varchar_length", "table_suffix", "log_level", "log_format"]

/-- What a variable of the environment starts with if it is a setting. -/
def variableStart : String := "sqlmoose_"

/-- The value that the environment has for a setting; of variables that differ in letter case the
last counts. -/
def inEnvironment? (environment : Environment) (name : String) : Option Value :=
  ((environment.reverse.find? fun entry =>
    Text.lower entry.1 == variableStart ++ name).map fun entry => Value.text entry.2)

/-- The value that arguments have for a setting; their names may be in any letter case, and of those
that differ in it the first counts. -/
def inArguments? (arguments : List (String × Value)) (name : String) : Option Value :=
  (arguments.find? fun argument => Text.lower argument.1 == name).map Prod.snd

/-- The value given for a setting, if there is one. -/
def given? (arguments : List (String × Value)) (environment : Environment) (name : String) :
    Option Value :=
  (inArguments? arguments name).or (inEnvironment? environment name)

/-- The text that bytes are in the encoding of files. -/
def textOfBytes? (bytes : List UInt8) : Option String :=
  (String.fromUTF8? ⟨bytes.toArray⟩).map fun s =>
    String.ofList (s.toList.flatMap fun c => Text.keptPoint c.toNat)

/-- The text of a setting. Constants stand for the words that they are spelled with. -/
def textOf : Value → Except SettingProblem String
  | .text s => .ok s
  | .bytes b =>
    match textOfBytes? b with
    | some s => .ok s
    | none => .error .notUnicode
  | .kind k => .ok k.tag
  | .operator op => .ok op.symbol
  | _ => .error .notText

/-- The word of a setting that allows only some. -/
def wordOf (allowed : List String) (v : Value) : Except SettingProblem String :=
  match v with
  | .text s =>
    if allowed.contains s then .ok s
    else if Text.isWritable s then .error .notAllowed
    else .error .notUnicode
  | _ => .error .notAllowed

/-! ## Whole numbers -/

/-- The text after zeros and underscores, the last of which is given. A minus sign can follow them,
and what is left of zeros alone, or in front of a point, is the last of them. -/
def afterZeros? (last : Char) : List Char → Option (List Char)
  | [] => some [last]
  | c :: rest =>
    if c = '0' ∨ c = '_' then afterZeros? c rest
    else if c = '.' then some (last :: c :: rest)
    else if c.isDigit ∨ c = '-' then some (c :: rest)
    else none

/-- The text of a number without the zeros in front of it. -/
def withoutZeros? : List Char → Option (List Char)
  | [] => none
  | c :: rest =>
    if c = '0' then afterZeros? c rest
    else if c.isDigit then some (c :: rest)
    else none

/-- The text of a number without a fraction of zeros. -/
def withoutZeroFraction (text : List Char) : List Char :=
  let whole := text.takeWhile (· != '.')
  let fraction := text.drop (whole.length + 1)
  if !fraction.isEmpty && fraction.all (· == '0') then whole else text

/-- The text of a number without its underscores, provided that each has other characters on both
sides. -/
def withoutUnderscores (text : List Char) : List Char :=
  if text.head? = some '_' ∨ text.getLast? = some '_' ∨ Text.occurs ['_', '_'] text then text
  else text.filter (· != '_')

/-- The digits after a minus sign that a text may start with. -/
def unsigned : List Char → List Char
  | '-' :: digits => digits
  | digits => digits

/-- Whether digits are those of a whole number without zeros in front. -/
def areDigits (digits : List Char) : Bool :=
  digits == ['0'] || (digits.all Char.isDigit && digits.head?.any (· != '0'))

/-- The whole number that a text spells with no more than a minus sign and its digits, of which
there is a greatest number. The sign counts as one of them. -/
def plainWhole? (text : List Char) : Option Int :=
  let digits := unsigned text
  if areDigits digits && decide (text.length ≤ Number.digitLimit) then
    some (Number.withSign (digits.length < text.length)
      (Number.ofDigits (digits.filterMap Number.asciiDigit?)))
  else none

/-- Whether a text starts with more digits than a whole number can have. -/
def isOverlong (text : List Char) : Bool :=
  let digits := (unsigned text).takeWhile Char.isDigit
  digits.head?.any (· != '0')
    && decide (Number.digitLimit < text.length - (unsigned text).length + digits.length)

/-- The whole number that a text spells in ASCII digits. Blanks around it, a plus sign, zeros in
front, single underscores and a fraction of zeros make no difference. -/
def wholeOfText (text : String) : Except SettingProblem Int :=
  if isOverlong text.toList then .error .tooLong
  else
    let (negative, magnitude) :=
      Number.signed (Number.trimmed Number.isIntegerBlank text.toList)
    let digits := (withoutZeros? magnitude).map fun digits =>
      withoutUnderscores (withoutZeroFraction digits)
    match digits.bind fun digits => plainWhole? (if negative then '-' :: digits else digits) with
    | some n => .ok n
    | none => .error .unreadableNumber

/-- The bound below which binary numbers can be taken for whole numbers. -/
def binaryBound : Int := Nat.pow 2 63

/-- The whole number of a binary number. -/
def wholeOfBinary (x : Binary64) : Except SettingProblem Int :=
  if !x.isFinite then .error .notFinite
  else if !(Value.float x).same (.int x.truncate) then .error .notWhole
  else if -binaryBound < x.truncate ∧ x.truncate < binaryBound then .ok x.truncate
  else .error .tooLong

/-- The whole number of a decimal number. -/
def wholeOfDecimal : Decimal → Except SettingProblem Int
  | .finite negative coefficient exponent =>
    if Decimal.isWhole coefficient exponent then
      .ok (Decimal.truncate negative coefficient exponent)
    else .error .notWhole
  | _ => .error .notFinite

/-- The whole number of a value. -/
def wholeOf : Value → Except SettingProblem Int
  | .int n => .ok n
  | .bool b => .ok b.toInt
  | .float x => wholeOfBinary x
  | .decimal x => wholeOfDecimal x
  | .text s => if Text.isWritable s then wholeOfText s else .error .notUnicode
  | .bytes b =>
    match textOfBytes? b with
    | some s => wholeOfText s
    | none => .error .unreadableNumber
  | .kind _ => .error .tooLong
  | .operator _ => .error .tooLong
  | _ => .error .notNumber

/-- The positive whole number of a value. -/
def positiveOf (v : Value) : Except SettingProblem Int := do
  let n ← wholeOf v
  if 0 < n then return n else throw .notPositive

/-- The problem of a setting, if it has one. -/
def problemOf {α : Type} (name : String) : Except SettingProblem α → List (String × SettingProblem)
  | .ok _ => []
  | .error problem => [(name, problem)]

/-- Problems in the order of the names of their settings. -/
def sortProblems (problems : List (String × SettingProblem)) : List (String × SettingProblem) :=
  problems.mergeSort fun a b => decide (a.1 ≤ b.1)

/-- A setting read by its rule, or its default. -/
def settingOf {α : Type} (given : Option Value) (read : Value → Except SettingProblem α)
    (default : α) : Except SettingProblem α :=
  match given with
  | some v => read v
  | none => .ok default

/-! ## All settings -/

/-- The settings that arguments and the environment give. -/
def resolve (arguments : List (String × Value)) (environment : Environment) :
    Except Fault Settings :=
  let arguments := settled arguments
  let given := given? arguments environment
  let database := settingOf (given "database") textOf ":memory:"
  let dialect := settingOf (given "dialect") (wordOf ["mysql", "sqlite"]) "mysql"
  let varcharLength := settingOf (given "varchar_length") positiveOf 255
  let tableSuffix := settingOf (given "table_suffix") textOf "s"
  let logLevel := settingOf (given "log_level") textOf "INFO"
  let logFormat := settingOf (given "log_format") (wordOf ["text", "json"]) "text"
  let unknown := (arguments.filter fun argument => !names.contains (Text.lower argument.1)).map
    fun argument => (argument.1, SettingProblem.unknownName)
  match unknown, database, dialect, varcharLength, tableSuffix, logLevel, logFormat with
  | [], .ok database, .ok dialect, .ok varcharLength, .ok tableSuffix, .ok logLevel,
    .ok logFormat => .ok ⟨database, dialect, varcharLength, tableSuffix, logLevel, logFormat⟩
  | unknown, database, dialect, varcharLength, tableSuffix, logLevel, logFormat =>
    .error (.invalidSettings (sortProblems
      (unknown ++ problemOf "database" database ++ problemOf "dialect" dialect
        ++ problemOf "varchar_length" varcharLength ++ problemOf "table_suffix" tableSuffix
        ++ problemOf "log_level" logLevel ++ problemOf "log_format" logFormat)))

/-- The dialect of the settings. -/
def dialectOf (s : Settings) : Dialect :=
  ⟨if s.dialect == "sqlite" then .sqlite else .mysql, s.varcharLength⟩

/-- The text that describes the dialect of the settings. -/
def describeDialect (s : Settings) : Except Fault String := do
  let _ ← Dialect.boundText s.varcharLength
  return s.dialectOf.describe

/-- The named log levels. -/
def logLevels : List (String × Nat) :=
  [("CRITICAL", 50), ("FATAL", 50), ("ERROR", 40), ("WARNING", 30), ("WARN", 30), ("INFO", 20),
   ("DEBUG", 10), ("NOTSET", 0)]

/-- The log level that the settings name, in any letter case; a name that is not known gives the
level of information. Two words name things that are no levels. -/
def logThreshold (s : Settings) : Except Fault Nat :=
  match Text.asciiUpper s.logLevel with
  | "BASIC_FORMAT" => .error (.meaningless "unknown level")
  | "_STYLES" => .error (.unfit "level is not an integer or a valid string")
  | name => .ok ((logLevels.lookup name).getD 20)

/-- The name of the formatter of written log entries. -/
def formatterName (s : Settings) : String :=
  if s.logFormat == "json" then "JSONFormatter" else "Formatter"

end Settings
end DocTable
