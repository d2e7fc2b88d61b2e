/-
# Flags of a pattern

The source of a pattern can start with groups of flags, `(?i)` or `(?ms)`, which hold for the whole
pattern. Remarks can stand between the groups, and after the flag of verbose patterns also blanks
and the rest of a line after a number sign. Flags that hold for a part only are not among them.
-/
import DocTable.Text.Basic

namespace DocTable
namespace Text

/-- The letters of flags that hold for a whole pattern. -/
def flagLetters : List Char := ['a', 'i', 'L', 'm', 's', 't', 'u', 'x']

/-- The letter of the flag of verbose patterns. -/
def verboseLetter : Char := 'x'

/-- The letters of a group of flags at the start of a text, and the text after the group. -/
def flagGroup? (text : List Char) : Option (List Char × List Char) := do
  let rest ← afterWord? "(?" text
  let letters := rest.takeWhile flagLetters.contains
  let rest ← afterWord? ")" (rest.drop letters.length)
  if letters.isEmpty then none else some (letters, rest)

/-- The text after the first occurrence of a mark; one with a backslash in front is passed over. -/
def afterMark (mark : Char) : List Char → List Char
  | [] => []
  | '\\' :: _ :: rest => afterMark mark rest
  | c :: rest => if c = mark then rest else afterMark mark rest

/-- The text after a remark that it starts with. -/
def afterRemark? (text : List Char) : Option (List Char) :=
  (afterWord? "(?#" text).map (afterMark ')')

/-- Whether a character is passed over in a verbose pattern. -/
def isVerboseBlank (c : Char) : Bool :=
  c == ' ' || (decide (0x09 ≤ c.toNat) && decide (c.toNat ≤ 0x0d))

/-- The text after a blank or a line end remark that a verbose pattern starts with. -/
def afterVerboseBlank? : List Char → Option (List Char)
  | [] => none
  | c :: rest =>
    if isVerboseBlank c then some rest
    else if c = '#' then some (afterMark '\n' rest)
    else none

/-- The letters of all groups of flags at the start of a pattern, read in at most `steps` steps. -/
def leadingFlags (verbose : Bool) : Nat → List Char → List Char
  | 0, _ => []
  | steps + 1, text =>
    match flagGroup? text, afterRemark? text, afterVerboseBlank? text with
    | some (letters, rest), _, _ =>
      letters ++ leadingFlags (verbose || letters.contains verboseLetter) steps rest
    | none, some rest, _ => leadingFlags verbose steps rest
    | none, none, some rest => if verbose then leadingFlags verbose steps rest else []
    | none, none, none => []

/-- The flags that are named when a pattern is shown, in the order in which they are. -/
def flagNames : List (Char × String) :=
  [('t', "re.TEMPLATE"), ('i', "re.IGNORECASE"), ('m', "re.MULTILINE"), ('s', "re.DOTALL"),
   ('x', "re.VERBOSE"), ('a', "re.ASCII")]

/-- The names of the flags of a pattern. -/
def patternFlags (source : String) : List String :=
  let letters := leadingFlags false (source.length + 1) source.toList
  flagNames.filterMap fun flag => if letters.contains flag.1 then some flag.2 else none

end Text
end DocTable
