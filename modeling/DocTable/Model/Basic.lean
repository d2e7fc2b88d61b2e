/-
# Models

A model is the gateway to the table of one entity: the declared fields, the table and the dialect.
It brings the table in line with the fields once, before it executes its first statement.
-/
import DocTable.Query.Builder
import DocTable.Sync.Run

namespace DocTable

/-- A model. -/
structure Model where
  /-- The number that tells the model from all others. -/
  number : Nat
  /-- The name of the entity. -/
  name : String
  /-- The declared fields. -/
  schema : EntitySchema
  /-- The dialect of the statements. -/
  dialect : Dialect
  /-- The table. -/
  table : String
  /-- Whether the table is brought in line with the fields. -/
  synchronize : Bool

/-- How the fields of a model are given. -/
inductive SchemaSource where
  /-- By a definition, or the pairs of one. -/
  | definition (v : Value)
  /-- By declared fields. -/
  | fields (fs : Fields)
  /-- By the schema of an entity, whose name may be another than the model's. -/
  | entity (schema : EntitySchema)

namespace SchemaSource

/-- The declared fields of a source. -/
def declared : SchemaSource → Except Fault Fields
  | definition v => Fields.ofPairs v
  | fields fs => .ok fs
  | entity schema => .ok schema.fields

/-- The schema of a source for an entity. -/
def bind (name : String) : SchemaSource → Except Fault EntitySchema
  | entity schema => .ok schema
  | source => do return ⟨name, ← source.declared⟩

end SchemaSource

/-- The table of an entity: its name in lower case and a suffix. -/
def tableNameFor (entityName suffix : String) : String := Text.lower entityName ++ suffix

namespace Model

/-- The model of a source; the table is derived from the name unless one is given. -/
def make (number : Nat) (dialect : Dialect) (suffix name : String) (source : SchemaSource)
    (table : Option String) (synchronize : Bool) : Except Fault Model := do
  let schema ← source.bind name
  return { number := number
           name := name
           schema := schema
           dialect := dialect
           table := match table with
             | some t => if t.isEmpty then tableNameFor name suffix else t
             | none => tableNameFor name suffix
           synchronize := synchronize }

/-- The synchronizer of a model. -/
def synchronizer (m : Model) : Synchronizer := ⟨m.dialect, m.table, m.schema.fields⟩

/-- A query of all documents. -/
def query (m : Model) : Query := .fresh m.dialect (.text m.table)

/-- The text that describes a model. -/
def describe (m : Model) : String :=
  "Model(name=" ++ Text.quoted m.name ++ ", table=" ++ Text.quoted m.table ++ ", fields="
    ++ (Value.list m.schema.fields.names).shown ++ ")"

end Model

/-- A model at work: the report of its synchronization once that has run, and the surroundings. -/
structure Running (σ : Type) where
  /-- The report of the synchronization. -/
  report : Option Report
  /-- The store, the log and the draws. -/
  surroundings : Surroundings σ

namespace Model

variable {σ : Type}

/-- Synchronizes the table unless that has been done or is not wanted. -/
def ready [Store σ] (m : Model) (r : Running σ) : Running σ :=
  if m.synchronize then
    match r.report with
    | some _ => r
    | none =>
      let (report, surroundings) := m.synchronizer.run r.surroundings
      ⟨some report, surroundings⟩
  else r

/-- Executes a statement after the synchronization. -/
def execute [Store σ] (m : Model) (statement : Statement) (r : Running σ) :
    Except Fault Answer × Running σ :=
  let r := m.ready r
  let (answer, surroundings) := r.surroundings.execute statement
  (answer, { r with surroundings := surroundings })

end Model
end DocTable
