/-
# Environments

The variables that a program finds around it. Their names and values are kept as bytes, so that not
every text can be one, and a name that is assigned again keeps its place.
-/
import DocTable.Fault

namespace DocTable

/-- Assignments of names with one set; a name that is there keeps its place. -/
def putNamed {α : Type} (name : String) (value : α) : List (String × α) → List (String × α)
  | [] => [(name, value)]
  | (other, v) :: rest =>
    if other = name then (name, value) :: rest else (other, v) :: putNamed name value rest

/-- Assignments in which every name stands once: in its first place, with its last value. -/
def settled {α : Type} (assignments : List (String × α)) : List (String × α) :=
  assignments.foldl (fun done assignment => putNamed assignment.1 assignment.2 done) []

/-- The variables of an environment with their values. -/
abbrev Environment := List (String × String)

namespace Environment

/-- What is wrong with a text as the name or the value of a variable, if anything is. -/
def textFault? (text : String) : Option Fault :=
  if (Text.nameBytes? text).isNone then some (.unnamable text)
  else if text.toList.contains '\x00' then some (.meaningless "embedded null byte")
  else none

/-- A variable with its value as an environment keeps them. -/
def entryOf (name value : String) : Except Fault (String × String) :=
  match (textFault? name).or (textFault? value) with
  | some fault => .error fault
  | none =>
    if name.toList.contains '=' then .error (.meaningless "illegal environment variable name")
    else .ok (Text.sameName name, Text.sameName value)

/-- The environment that assignments make. -/
def ofAssignments (assignments : List (String × String)) : Except Fault Environment := do
  return settled (← assignments.mapM fun assignment => entryOf assignment.1 assignment.2)

end Environment
end DocTable
