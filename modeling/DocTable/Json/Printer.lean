/-
# JSON text of a value

The compact JSON text of a value: no blanks, characters outside ASCII as they are. Points in time
are stored as text, sets as lists, and what JSON has no form for as the plain text of the value.
Only texts, numbers, truth values and the absence of a value can be keys.
-/
import DocTable.Codec.Temporal

namespace DocTable
namespace Json

/-- A character inside a JSON string: quotes, backslashes and control characters are escaped. -/
def escapedChar (c : Char) : List Char :=
  if c = '\x22' then ['\x5c', '\x22']
  else if c = '\x5c' then ['\x5c', '\x5c']
  else if c = '\n' then ['\x5c', 'n']
  else if c = '\r' then ['\x5c', 'r']
  else if c = '\t' then ['\x5c', 't']
  else if c = '\x08' then ['\x5c', 'b']
  else if c = '\x0c' then ['\x5c', 'f']
  else if c.toNat < 0x20 then '\x5c' :: 'u' :: Text.hexDigits 4 c.toNat
  else [c]

/-- A text as a JSON string. -/
def quote (s : String) : String :=
  String.ofList ('\x22' :: s.toList.flatMap escapedChar ++ ['\x22'])

/-- The text of a key, if the value can be one. -/
def keyText : Value → Except Fault String
  | .text s => .ok s
  | .null => .ok "null"
  | .bool b => .ok (if b then "true" else "false")
  | .int n => .ok (Int.repr n)
  | .float x => .ok (x.text Binary64.jsonNames)
  | v => .error (.unfit ("a key cannot be of type " ++ v.typeName))

mutual

/-- The JSON text of a value. -/
def print : Value → Except Fault String
  | .null => .ok "null"
  | .bool b => .ok (if b then "true" else "false")
  | .int n => .ok (Int.repr n)
  | .float x => .ok (x.text Binary64.jsonNames)
  | .text s => .ok (quote s)
  | .timestamp t => do return quote (← Codec.formatTimestamp t)
  | .date d => .ok (quote (Codec.formatDate d))
  | .list items => do return "[" ++ String.intercalate "," (← printItems items) ++ "]"
  | .tuple items => do return "[" ++ String.intercalate "," (← printItems items) ++ "]"
  | .set items => do return "[" ++ String.intercalate "," (← printItems items) ++ "]"
  | .map entries => do
    return "\x7b" ++ String.intercalate "," (← printEntries entries) ++ "\x7d"
  | v => .ok (quote v.plain)

/-- The JSON texts of the items of a sequence. -/
def printItems : List Value → Except Fault (List String)
  | [] => .ok []
  | item :: items => do
    let first ← print item
    return first :: (← printItems items)

/-- The JSON texts of the entries of a mapping. -/
def printEntries : List (Value × Value) → Except Fault (List String)
  | [] => .ok []
  | (key, value) :: entries => do
    let name ← keyText key
    let first ← print value
    return (quote name ++ ":" ++ first) :: (← printEntries entries)

end

end Json
end DocTable
