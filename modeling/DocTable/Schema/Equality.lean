/-
# Equality of declared fields

Two sets of declared fields are the same when they declare the same names with the same types,
defaults and sub-fields, in whatever order. Sub-fields are compared to a limited depth, and defaults
that are no numbers may not be comparable at all.
-/
import DocTable.Schema.Descriptor

namespace DocTable

/-- How deep sub-fields are compared. -/
def comparedDepth : Nat := 164

/-- Whether two optional defaults match. -/
def matchDefaults : Option Value → Option Value → Except Fault Bool
  | none, none => .ok true
  | some a, some b =>
    match a.matches? b with
    | some answer => .ok answer
    | none => .error .incomparable
  | _, _ => .ok false

mutual

/-- Whether two descriptors are equal: types, defaults and sub-fields are compared in that order, up
to the first difference. The number is how deep sub-fields may still be. -/
def Descriptor.compare : Nat → Descriptor → Descriptor → Except Fault Bool
  | depth, ⟨kind, default, nested⟩, other => do
    if kind != other.kind then return false
    if !(← matchDefaults default other.default) then return false
    match nested, other.nested with
    | none, none => return true
    | some fields, some others =>
      match depth with
      | 0 => throw .tooDeep
      | depth + 1 =>
        if fields.length == others.length then Fields.within depth fields others else return false
    | _, _ => return false

/-- Whether every field is declared in the same way among other fields. -/
def Fields.within : Nat → List (Value × Descriptor) → List (Value × Descriptor) →
    Except Fault Bool
  | _, [], _ => .ok true
  | depth, (name, d) :: rest, others =>
    match others.find? fun other => name.same other.1 with
    | none => .ok false
    | some (_, other) => do
      if ← Descriptor.compare depth d other then Fields.within depth rest others else return false

end

/-- Whether two sets of fields are equal, or the fault of comparing them. -/
def Fields.compare (fields others : Fields) : Except Fault Bool :=
  if fields.length == others.length then Fields.within comparedDepth fields others
  else .ok false

end DocTable
