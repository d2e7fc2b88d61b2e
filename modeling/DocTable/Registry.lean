/-
# Registries

A registry has at most one model for each entity name. Asking for a name again gives the model of
the first time, whatever schema or table comes with the question.
-/
import DocTable.Model.Basic
import DocTable.Schema.Equality

namespace DocTable

/-- A registry of models that share a dialect and a table suffix. -/
structure Registry where
  /-- The dialect of every model. -/
  dialect : Dialect
  /-- The suffix of derived table names. -/
  tableSuffix : String
  /-- The models by name, in order of registration. -/
  models : List (String × Model)

/-- What a registry answers to the question for a model. -/
structure Obtained where
  /-- The model. -/
  model : Model
  /-- Whether the model is new. -/
  isNew : Bool
  /-- Whether a schema came with the question that differs from the model's. -/
  differs : Bool
  /-- The registry afterwards. -/
  registry : Registry

namespace Registry

/-- A registry without models. -/
def empty (dialect : Dialect) (tableSuffix : String) : Registry := ⟨dialect, tableSuffix, []⟩

/-- The model of a name. -/
def get? (r : Registry) (name : String) : Option Model := r.models.lookup name

/-- The names in order of registration. -/
def names (r : Registry) : List String := r.models.map Prod.fst

/-- Whether a source declares other fields than a model has. -/
def declaresOthers (m : Model) : Option SchemaSource → Except Fault Bool
  | none => .ok false
  | some source => do return !(← Fields.compare (← source.declared) m.schema.fields)

/-- The model of a name, made from the source if there is none; `number` is the number of a new
model. -/
def getOrCreate (r : Registry) (number : Nat) (name : String) (source : Option SchemaSource)
    (table : Option String) : Except Fault Obtained :=
  match r.get? name with
  | some model => do return ⟨model, false, ← declaresOthers model source, r⟩
  | none =>
    match source with
    | none => .error (.failure (.unregistered (.text name)))
    | some source => do
      let model ← Model.make number r.dialect r.tableSuffix name source table true
      return ⟨model, true, false, { r with models := r.models ++ [(name, model)] }⟩

/-- What is logged about a schema that is ignored. -/
def differsMessage (name : String) : String :=
  "Model '" ++ name ++ "' already registered; ignoring the differing schema"

end Registry
end DocTable
