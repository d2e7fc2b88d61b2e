/-
# Descriptions of declared fields

Declared fields as a value: a mapping of names to their types, defaults and sub-fields.
-/
import DocTable.Schema.Descriptor

namespace DocTable

mutual

/-- The description of a descriptor. What is absent has no entry. -/
def Descriptor.describe : Descriptor → Value
  | ⟨kind, default, nested⟩ =>
    .map ((.text "type", .text kind.tag)
      :: ((Descriptor.shownDefault? ⟨kind, default, none⟩).map fun v =>
            ((.text "default" : Value), v)).toList
      ++ (match nested with
          | none => []
          | some fields => [(.text "nested", .map (Fields.describe fields))]))

/-- The descriptions of fields, by name. -/
def Fields.describe : List (Value × Descriptor) → List (Value × Value)
  | [] => []
  | (name, d) :: rest => (name, d.describe) :: Fields.describe rest

end

/-- The description of the fields of an entity. -/
def EntitySchema.describe (schema : EntitySchema) : Value :=
  .map [(.text "entity_name", .text schema.entityName),
        (.text "fields", .map (Fields.describe schema.fields))]

/-- The text that names the declared fields. -/
def Fields.summary (fields : Fields) : String :=
  "Schema(fields=" ++ (Value.list fields.names).shown ++ ")"

end DocTable
