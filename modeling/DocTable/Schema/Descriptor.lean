/-
# Field descriptors

The canonical form of a declared field, and how a definition is brought into it. A definition of a
field is one of

* a marker of its type;
* a mapping with a `type`, which is a marker or the definition of sub-fields, and perhaps a
  `default`;
* a mapping with nothing but a `default`;
* any other mapping, which defines sub-fields.

Every definition has a canonical form. The identity field `id` is implicit and never declared.
-/
import DocTable.Schema.Marker
import DocTable.Value.Elements

namespace DocTable

/-- The canonical form of a declared field. -/
structure Descriptor where
  /-- The type of the field. -/
  kind : FieldKind
  /-- The default of the field: a value to copy, or something to call. -/
  default : Option Value
  /-- The descriptors of the sub-fields, where some were declared. -/
  nested : Option (List (Value × Descriptor))

/-- Declared fields in order of declaration. -/
abbrev Fields := List (Value × Descriptor)

/-- The name of the implicit identity field. -/
def identityField : String := "id"

namespace Value

/-- A value other than the absence of one. -/
def present? : Value → Option Value
  | null => none
  | v => some v

end Value

namespace Descriptor

/-- A descriptor without sub-fields. -/
def plain (kind : FieldKind) (default : Option Value) : Descriptor := ⟨kind, default, none⟩

/-- The default of a definition, if it carries one. -/
def defaultIn (entries : Entries) : Option Value :=
  (Entries.get? (.text "default") entries).bind Value.present?

mutual

/-- The descriptor of one definition. -/
def ofDefinition : Value → Descriptor
  | .map entries =>
    match Entries.get? (.text "type") entries with
    | some (.map _) =>
      let fields := fieldsOfType entries
      ⟨.structured, defaultIn entries, if fields.isEmpty then none else some fields⟩
    | some marker => plain (.ofMarker marker) (defaultIn entries)
    | none =>
      if entries.isEmpty then plain .structured none
      else if Entries.has (.text "default") entries && entries.length == 1 then
        plain .structured (defaultIn entries)
      else ⟨.structured, none, some (fieldsOfEntries entries)⟩
  | marker => plain (.ofMarker marker) none

/-- The descriptors of the entries of a definition of fields, less the identity field. -/
def fieldsOfEntries : List (Value × Value) → List (Value × Descriptor)
  | [] => []
  | (name, definition) :: rest =>
    if name.same (.text identityField) then fieldsOfEntries rest
    else (name, ofDefinition definition) :: fieldsOfEntries rest

/-- The descriptors of the sub-fields that the `type` of a definition lists. -/
def fieldsOfType : List (Value × Value) → List (Value × Descriptor)
  | [] => []
  | (key, value) :: rest =>
    if key.same (.text "type") then
      match value with
      | .map entries => fieldsOfEntries entries
      | _ => []
    else fieldsOfType rest

end

/-- What a callable default is called. -/
def calledName : Value → String
  | .type marker => marker.name
  | .producer _ (some name) _ => name
  | v => v.shown

/-- The default as it is shown: something to call is shown by its name. -/
def shownDefault? (d : Descriptor) : Option Value :=
  d.default.map fun v => if v.isCallable then .text (calledName v) else v

end Descriptor

mutual

/-- How deep definitions are nested in a descriptor. -/
def Descriptor.depth : Descriptor → Nat
  | ⟨_, _, none⟩ => 0
  | ⟨_, _, some fields⟩ => Fields.depth fields

/-- How deep definitions are nested in the definition of fields. -/
def Fields.depth : List (Value × Descriptor) → Nat
  | [] => 1
  | (_, d) :: rest => max (d.depth + 1) (Fields.depth rest)

end

namespace Fields

/-- The fields that a definition declares; an empty value of any type declares none. -/
def ofDefinition (definition : Value) : Except Fault Fields := do
  return Descriptor.fieldsOfEntries (← (definition.orElse (.map [])).entries)

/-- The fields that a definition declares when it may also be given as pairs. -/
def ofPairs (definition : Value) : Except Fault Fields := do
  return Descriptor.fieldsOfEntries (← (definition.orElse (.map [])).asEntries)

/-- The descriptor of a field. -/
def get? (name : Value) : Fields → Option Descriptor
  | [] => none
  | (n, d) :: rest => if n.same name then some d else get? name rest

/-- The fields with one set; a name that is there keeps its place. -/
def put (name : Value) (d : Descriptor) : Fields → Fields
  | [] => [(name, d)]
  | (n, other) :: rest => if n.same name then (n, d) :: rest else (n, other) :: put name d rest

/-- The fields that a sequence of declarations leaves, the last one of a name winning. -/
def ofDeclarations (declarations : List (Value × Descriptor)) : Fields :=
  declarations.foldl (fun fields declaration => put declaration.1 declaration.2 fields) []

/-- The names of the fields in order. -/
def names (fields : Fields) : List Value := fields.map Prod.fst

end Fields

/-- The declared fields of one entity. -/
structure EntitySchema where
  /-- The name of the entity. -/
  entityName : String
  /-- The declared fields. -/
  fields : Fields

namespace EntitySchema

/-- The type of a declared field. -/
def kindOf? (schema : EntitySchema) (name : Value) : Option FieldKind :=
  (schema.fields.get? name).map Descriptor.kind

end EntitySchema
end DocTable
