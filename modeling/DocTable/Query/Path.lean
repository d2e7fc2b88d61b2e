/-
# Paths

A field is named by itself or by a dotted path: the column first, then the steps into the JSON value
that the column holds. A step of digits is an index; other steps are keys, in quotes unless they are
plain identifiers.
-/
import DocTable.Dialect.Basic

namespace DocTable
namespace Path

/-- The character between the segments of a path. -/
def separator : Char := '.'

/-- Whether a segment is a plain identifier; one line end may follow it. -/
def isIdentifier (segment : List Char) : Bool :=
  match segment with
  | [] => false
  | c :: rest =>
    Text.startsIdentifier c
      && (match rest.dropWhile Text.continuesIdentifier with
          | [] => true
          | ['\n'] => true
          | _ => false)

/-- Whether a segment is an index: nothing but digits. -/
def isIndex (segment : List Char) : Bool :=
  !segment.isEmpty && segment.all Text.hasDigitValue

/-- A character inside a quoted key. -/
def keyChar (c : Char) : List Char :=
  if c = '\x5c' then ['\x5c', '\x5c'] else if c = '\x22' then ['\x5c', '\x22'] else [c]

/-- The step into a JSON value for a segment. -/
def step (segment : List Char) : List Char :=
  if isIndex segment then '[' :: segment ++ [']']
  else if isIdentifier segment then '.' :: segment
  else '.' :: '\x22' :: segment.flatMap keyChar ++ ['\x22']

/-- The JSON path of some segments. -/
def jsonPath (segments : List (List Char)) : String :=
  String.ofList ('$' :: segments.flatMap step)

/-- Whether a path leads into a column. -/
def isNested (path : String) : Bool := path.toList.contains separator

/-- The expression for what is found at a path. -/
def compile (d : Dialect) (path : String) : String :=
  match Text.splitOn separator path.toList with
  | column :: segment :: segments =>
    d.jsonExtract (String.ofList column) (jsonPath (segment :: segments))
  | _ => Dialect.quote path

end Path
end DocTable
