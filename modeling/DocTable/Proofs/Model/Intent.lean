/-
# What an operation comes to

Called with its arguments, an operation comes to one of three things before the store is asked
anything: it ends, it waits for the synchronization only to fail then, or it executes one statement
after the synchronization and makes its result of the answer. Which of them it is depends on the
model, the arguments and the draws for defaults; neither the store nor what came of the
synchronization has a part in it. The main statement is that to await an operation is to carry out
what it comes to.
-/
import DocTable.Model.Delivery
import DocTable.Proofs.Steps

namespace DocTable

/-- What an operation comes to before the store is asked anything. -/
inductive Intent where
  /-- It ends at once. -/
  | ends (result : Except Fault Value)
  /-- It waits for the synchronization and fails then: its query has no statement. -/
  | waits (fault : Fault)
  /-- It executes a statement after the synchronization, and makes its result of the answer. -/
  | executes (statement : Statement) (conclude : Answer → Except Fault Value)

/-- What an operation comes to that executes a statement, if this compiles. -/
def Intent.ofCompiled (statement : Except Fault Statement)
    (conclude : Answer → Except Fault Value) : Intent :=
  match statement with
  | .error fault => .ends (.error fault)
  | .ok statement => .executes statement conclude

/-- A model at work after some draws. -/
def Running.withDraws {σ : Type} (r : Running σ) (draws : Codec.Draws) : Running σ :=
  { r with surroundings := { r.surroundings with draws := draws } }

namespace Model

variable {σ : Type} (m : Model)

/-- What a selection comes to; `present` makes the result of the documents. -/
def queryIntent (query : Query) (present : List Value → Value) : Intent :=
  match query.compile with
  | .error fault => .waits fault
  | .ok statement =>
    .executes statement fun answer => (answer.documents m.schema.fields).map present

/-- What work comes to. -/
def workIntent (draws : Codec.Draws) : Work → Intent
  | .create document =>
    let encoding := Codec.encodeDocument m.schema.fields document draws
    .ofCompiled (encoding.pairs.bind fun pairs => compileInsert m.dialect m.table pairs)
      (identified encoding.document)
  | .select query => m.queryIntent query Value.list
  | .selectFirst query => m.queryIntent query Query.firstOf
  | .update conditions changes single =>
    match assignments changes with
    | .error fault => .ends (.error fault)
    | .ok [] => .ends (.ok (.outcome none 0))
    | .ok pairs =>
      .ofCompiled (compileUpdate m.dialect m.table pairs conditions single)
        fun answer => .ok (writtenValue answer)
  | .delete conditions single =>
    .ofCompiled (compileDelete m.dialect m.table conditions single)
      fun answer => .ok (writtenValue answer)
  | .aggregate pipeline => .ofCompiled (compilePipeline m.dialect m.table pipeline) aggregated

/-- What an operation comes to. -/
def intent (draws : Codec.Draws) (operation : Operation) : Intent :=
  match m.prepare operation with
  | .error fault => .ends (.error fault)
  | .ok work => m.workIntent draws work

/-- The draws after an operation: only an insertion draws. -/
def drawsAfter (draws : Codec.Draws) : Operation → Codec.Draws
  | .create document => (Codec.encodeDocument m.schema.fields document draws).draws
  | _ => draws

/-- Carries out what an operation comes to. -/
def carryOut [Store σ] (intent : Intent) (r : Running σ) : Except Fault Value × Running σ :=
  match intent with
  | .ends result => (result, r)
  | .waits fault => (.error fault, m.ready r)
  | .executes statement conclude =>
    let (answer, r) := m.execute statement r
    (answer.bind conclude, r)

variable {m} [Store σ]

/-! ## Work is carried out -/

lemma performQuery_eq (query : Query) (present : List Value → Value) (r : Running σ) :
    ((m.performQuery query r).1.map present, (m.performQuery query r).2) =
      m.carryOut (m.queryIntent query present) r := by
  rw [performQuery, queryIntent, Query.exec]
  cases query.compile with
  | error fault => rfl
  | ok statement =>
    simp only [carryOut, execute, Surroundings.execute]
    rcases Store.execute statement (m.ready r).surroundings.store with ⟨fault | answer, store⟩
    · rfl
    · rfl

lemma performCompiled_eq (statement : Except Fault Statement)
    (conclude : Answer → Except Fault Value) (r : Running σ) :
    ((m.performCompiled statement conclude r).result,
        (m.performCompiled statement conclude r).running) =
      m.carryOut (.ofCompiled statement conclude) r := by
  cases statement with
  | error fault => rfl
  | ok statement =>
    rw [performCompiled, Intent.ofCompiled, carryOut]
    rcases m.execute statement r with ⟨fault | answer, r'⟩
    · rfl
    · rfl

lemma performUpdate_eq (conditions changes : Value) (single : Bool) (draws : Codec.Draws)
    (r : Running σ) :
    ((m.performUpdate conditions changes single r).result,
        (m.performUpdate conditions changes single r).running) =
      m.carryOut (m.workIntent draws (.update conditions changes single)) r := by
  rw [performUpdate, workIntent]
  rcases assignments changes with fault | _ | ⟨pair, pairs⟩
  · rfl
  · rfl
  · exact performCompiled_eq _ _ r

lemma performCreate_eq (document : Value) (r : Running σ) :
    ((m.performCreate document r).result, (m.performCreate document r).running) =
      m.carryOut (m.workIntent r.surroundings.draws (.create document))
        (r.withDraws (m.drawsAfter r.surroundings.draws (.create document))) := by
  simp only [performCreate, workIntent, drawsAfter, Running.withDraws]
  cases (Codec.encodeDocument m.schema.fields document r.surroundings.draws).pairs.bind
      fun pairs => compileInsert m.dialect m.table pairs with
  | error fault => rfl
  | ok statement =>
    simp only [Intent.ofCompiled, carryOut]
    rcases m.execute statement _ with ⟨fault | answer, r'⟩
    · rfl
    · simp only [Except.bind]
      cases identified _ answer with
      | error fault => rfl
      | ok document => rfl

/-- To await an operation is to carry out what it comes to. -/
lemma await_eq (operation : Operation) (r : Running σ) :
    m.await operation r =
      m.carryOut (m.intent r.surroundings.draws operation)
        (r.withDraws (m.drawsAfter r.surroundings.draws operation)) := by
  cases operation with
  | create document => exact performCreate_eq document r
  | find conditions calls =>
    rw [await, intent, prepare]
    cases m.findThen conditions calls with
    | error fault => rfl
    | ok query => exact performQuery_eq query Value.list r
  | findFirst conditions calls =>
    rw [await, intent, prepare]
    cases m.findThen conditions calls with
    | error fault => rfl
    | ok query => exact performQuery_eq query Query.firstOf r
  | findById id =>
    rw [await, intent, prepare]
    cases m.find (.map [(.text identityField, id)]) with
    | error fault => rfl
    | ok query => exact performQuery_eq query Query.firstOf r
  | update conditions changes single =>
    exact performUpdate_eq conditions changes single r.surroundings.draws r
  | delete conditions single => exact performCompiled_eq _ _ r
  | aggregate pipeline => exact performCompiled_eq _ _ r

end Model
end DocTable
