/-
# Operations on documents

The operations of a model as units of work. Work is prepared when an operation is called and
performed afterwards: a filter of a selection is compiled while it is prepared, all else when it is
performed. An operation that cannot encode or compile its arguments executes nothing.
-/
import DocTable.Model.Basic
import DocTable.Query.Execution
import DocTable.Query.Pipeline
import DocTable.Query.Write

namespace DocTable

/-- A unit of work. -/
inductive Work where
  /-- Insert a document. -/
  | create (document : Value)
  /-- Select the documents of a query. -/
  | select (query : Query)
  /-- Select the first document of a query. -/
  | selectFirst (query : Query)
  /-- Set columns of the rows of a filter, or of one of them. -/
  | update (conditions changes : Value) (single : Bool)
  /-- Delete the rows of a filter, or one of them. -/
  | delete (conditions : Value) (single : Bool)
  /-- Select the rows of a pipeline. -/
  | aggregate (pipeline : Value)

/-- An operation as it is called. -/
inductive Operation where
  /-- Insert a document. -/
  | create (document : Value)
  /-- Select the documents of a filter, after further calls on the query. -/
  | find (conditions : Value) (calls : List (String × List Value))
  /-- Select the first document of a filter, after further calls on the query. -/
  | findFirst (conditions : Value) (calls : List (String × List Value))
  /-- Select the document of an identity. -/
  | findById (id : Value)
  /-- Set columns of the rows of a filter, or of one of them. -/
  | update (conditions changes : Value) (single : Bool)
  /-- Delete the rows of a filter, or one of them. -/
  | delete (conditions : Value) (single : Bool)
  /-- Select the rows of a pipeline. -/
  | aggregate (pipeline : Value)

namespace Model

/-- The query of a filter; what is empty or absent filters nothing. -/
def find (m : Model) (conditions : Value) : Except Fault Query :=
  m.query.apply (.filter (conditions.orElse (.map [])) .null)

/-- The query of a filter after further calls. -/
def findThen (m : Model) (conditions : Value) (calls : List (String × List Value)) :
    Except Fault Query := do
  (← m.find conditions).applyNamed calls

/-- Prepares an operation. -/
def prepare (m : Model) : Operation → Except Fault Work
  | .create document => .ok (.create document)
  | .find conditions calls => do return .select (← m.findThen conditions calls)
  | .findFirst conditions calls => do return .selectFirst (← m.findThen conditions calls)
  | .findById id => do return .selectFirst (← m.find (.map [(.text identityField, id)]))
  | .update conditions changes single => .ok (.update conditions changes single)
  | .delete conditions single => .ok (.delete conditions single)
  | .aggregate pipeline => .ok (.aggregate pipeline)

/-- What is left of performed work: its result, the document that was handed in as the work leaves
it, and the model at work afterwards. -/
structure Performed (σ : Type) where
  /-- The result, or why there is none. -/
  result : Except Fault Value
  /-- The document that was handed in, where one was. -/
  document : Option Value
  /-- The model at work. -/
  running : Running σ

variable {σ : Type}

/-- The fault of a value that was to be a mapping of changes. -/
def notChanges : Value → Fault
  | .type .map => .unfit "the type of mappings has no entries of its own"
  | v => .lacks v "get"

/-- A document after its insertion: it holds the identity that the store gave it. -/
def identified (document : Value) : Answer → Except Fault Value
  | .written insertedId _ =>
    document.assign (.text identityField) ((insertedId.map Value.int).getD .null)
  | .rows _ => .ok document

/-- The value of the answer to a write. -/
def writtenValue : Answer → Value
  | .written insertedId affected => .outcome insertedId affected
  | .rows rows => .list (rows.map Value.map)

/-- Inserts a document. Its defaults are filled in, and the identity is written into it. -/
def performCreate [Store σ] (m : Model) (document : Value) (r : Running σ) : Performed σ :=
  let encoding := Codec.encodeDocument m.schema.fields document r.surroundings.draws
  let r := { r with surroundings := { r.surroundings with draws := encoding.draws } }
  match encoding.pairs.bind fun pairs => compileInsert m.dialect m.table pairs with
  | .error fault => ⟨.error fault, some encoding.document, r⟩
  | .ok statement =>
    match m.execute statement r with
    | (.error fault, r) => ⟨.error fault, some encoding.document, r⟩
    | (.ok answer, r) =>
      match identified encoding.document answer with
      | .error fault => ⟨.error fault, some encoding.document, r⟩
      | .ok document => ⟨.ok document, some document, r⟩

/-- The documents that a query selects. The synchronization comes before the query is compiled. -/
def performQuery [Store σ] (m : Model) (query : Query) (r : Running σ) :
    Except Fault (List Value) × Running σ :=
  let r := m.ready r
  let (documents, surroundings) := query.exec m.schema.fields r.surroundings
  (documents, { r with surroundings := surroundings })

/-- Executes a statement that was compiled, and takes its result from the answer. -/
def performCompiled [Store σ] (m : Model) (statement : Except Fault Statement)
    (result : Answer → Except Fault Value) (r : Running σ) : Performed σ :=
  match statement with
  | .error fault => ⟨.error fault, none, r⟩
  | .ok statement =>
    match m.execute statement r with
    | (.error fault, r) => ⟨.error fault, none, r⟩
    | (.ok answer, r) => ⟨result answer, none, r⟩

/-- The columns that changes set, with their stored values: the entries of a mapping under `$set`,
or else all entries. -/
def assignments (changes : Value) : Except Fault (List (Value × Value)) :=
  match changes.orElse (.map []) with
  | .map entries =>
    match Entries.get? (.text "$set") entries with
    | some (.map inner) => Codec.encodeEntries inner
    | _ => Codec.encodeEntries entries
  | v => .error (notChanges v)

/-- Sets columns. Without any column to set nothing is executed. -/
def performUpdate [Store σ] (m : Model) (conditions changes : Value) (single : Bool)
    (r : Running σ) : Performed σ :=
  match assignments changes with
  | .error fault => ⟨.error fault, none, r⟩
  | .ok [] => ⟨.ok (.outcome none 0), none, r⟩
  | .ok pairs =>
    m.performCompiled (compileUpdate m.dialect m.table pairs conditions single)
      (fun answer => .ok (writtenValue answer)) r

/-- The documents of the rows of a pipeline. No declared fields apply to them. -/
def aggregated (answer : Answer) : Except Fault Value := do
  return .list (← answer.documents [])

/-- Performs work. -/
def perform [Store σ] (m : Model) (work : Work) (r : Running σ) : Performed σ :=
  match work with
  | .create document => m.performCreate document r
  | .select query =>
    let (documents, r) := m.performQuery query r
    ⟨documents.map Value.list, none, r⟩
  | .selectFirst query =>
    let (documents, r) := m.performQuery query r
    ⟨documents.map Query.firstOf, none, r⟩
  | .update conditions changes single => m.performUpdate conditions changes single r
  | .delete conditions single =>
    m.performCompiled (compileDelete m.dialect m.table conditions single)
      (fun answer => .ok (writtenValue answer)) r
  | .aggregate pipeline =>
    m.performCompiled (compilePipeline m.dialect m.table pipeline) aggregated r

end Model
end DocTable
