/-
# JSON text in outline form

The JSON text of a description: one entry or item a line, indented by two blanks, members in the
order of their keys, characters outside ASCII escaped.
-/
import DocTable.Json.Printer

namespace DocTable
namespace Json

/-- The escape of one code unit. -/
def unitEscape (unit : Nat) : List Char := '\x5c' :: 'u' :: Text.hexDigits 4 unit

/-- A character inside a JSON string of ASCII characters; beyond the first plane it takes two
escapes, and a half that stands alone takes one. -/
def asciiChar (c : Char) : List Char :=
  if 0x10000 ≤ c.toNat then
    match Text.half? c with
    | some half => unitEscape half
    | none => unitEscape (Text.highHalf c.toNat) ++ unitEscape (Text.lowHalf c.toNat)
  else if 0x7f ≤ c.toNat then unitEscape c.toNat
  else escapedChar c

/-- A text as a JSON string of ASCII characters. -/
def asciiQuote (s : String) : String :=
  String.ofList ('\x22' :: s.toList.flatMap asciiChar ++ ['\x22'])

/-- The start of a line at a depth. -/
def lineStart (depth : Nat) : String := String.ofList ('\n' :: List.replicate (2 * depth) ' ')

/-- Lines between an opening and a closing mark; with no lines the marks stand together. -/
def enclosed (opening closing : String) (depth : Nat) (lines : List String) : String :=
  if lines.isEmpty then opening ++ closing
  else
    opening ++ lineStart (depth + 1)
      ++ String.intercalate ("," ++ lineStart (depth + 1)) lines
      ++ lineStart depth ++ closing

/-- Members in the order of the code points of their keys. -/
def sortMembers (members : List (String × String)) : List (String × String) :=
  members.mergeSort fun a b => Text.inOrder a.1 b.1

/-- The text of a key; values that cannot be keys are shown. -/
def outlineKey (key : Value) : String :=
  match keyText key with
  | .ok name => name
  | .error _ => key.plain

mutual

/-- The outline of a value whose first line stands at a depth. -/
def outline (depth : Nat) : Value → String
  | .null => "null"
  | .bool b => if b then "true" else "false"
  | .int n => Int.repr n
  | .float x => x.text Binary64.jsonNames
  | .text s => asciiQuote s
  | .list items => enclosed "[" "]" depth (outlineItems (depth + 1) items)
  | .tuple items => enclosed "[" "]" depth (outlineItems (depth + 1) items)
  | .map entries =>
    enclosed "\x7b" "\x7d" depth
      ((sortMembers (outlineEntries (depth + 1) entries)).map fun member =>
        asciiQuote member.1 ++ ": " ++ member.2)
  | v => asciiQuote v.plain

/-- The outlines of the items of a sequence. -/
def outlineItems (depth : Nat) : List Value → List String
  | [] => []
  | item :: items => outline depth item :: outlineItems depth items

/-- The keys of a mapping and the outlines of their values. -/
def outlineEntries (depth : Nat) : List (Value × Value) → List (String × String)
  | [] => []
  | (key, value) :: entries => (outlineKey key, outline depth value) :: outlineEntries depth entries

end

end Json
end DocTable
