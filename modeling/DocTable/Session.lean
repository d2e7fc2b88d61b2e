/-
# Sessions

An application at work: a registry, all models made so far with the reports of their
synchronizations, and the surroundings that the models share. Models are numbered in the order in
which they are made. Unless synchronization is deferred, a new model is synchronized at once.
-/
import DocTable.Model.Invocation
import DocTable.Registry

namespace DocTable

/-- An application at work. -/
structure Session (σ : Type) where
  /-- The registry. -/
  registry : Registry
  /-- The models by number, with the reports of their synchronizations. -/
  models : List (Model × Option Report)
  /-- Whether a new model waits for its first use to be synchronized. -/
  deferred : Bool
  /-- The store, the log and the draws. -/
  surroundings : Surroundings σ

namespace Session

variable {σ : Type}

/-- A session without models. -/
def start (registry : Registry) (deferred : Bool) (store : σ) : Session σ :=
  ⟨registry, [], deferred, .start store⟩

/-- The report of a model. -/
def reportOf (s : Session σ) (number : Nat) : Option Report :=
  (s.models[number]?).bind Prod.snd

/-- A model at work in the session. -/
def running (s : Session σ) (number : Nat) : Running σ := ⟨s.reportOf number, s.surroundings⟩

/-- The session after a model has been at work. -/
def resume (s : Session σ) (model : Model) (r : Running σ) : Session σ :=
  { s with
    models := s.models.set model.number (model, r.report)
    surroundings := r.surroundings }

/-- Synchronizes a model unless that has been done or is not wanted. -/
def ready [Store σ] (s : Session σ) (model : Model) : Session σ :=
  s.resume model (model.ready (s.running model.number))

/-- The session with a new model. -/
def add [Store σ] (s : Session σ) (model : Model) : Session σ :=
  let s := { s with models := s.models ++ [(model, none)] }
  if s.deferred then s else s.ready model

/-- Asks the registry for a model. -/
def define [Store σ] (s : Session σ) (name : String) (source : Option SchemaSource)
    (table : Option String) : Except Fault Model × Session σ :=
  match s.registry.getOrCreate s.models.length name source table with
  | .error fault => (.error fault, s)
  | .ok obtained =>
    let s := { s with registry := obtained.registry }
    if obtained.isNew then (.ok obtained.model, s.add obtained.model)
    else if obtained.differs then
      (.ok obtained.model,
        { s with surroundings := s.surroundings.note .warning (Registry.differsMessage name) })
    else (.ok obtained.model, s)

/-- Makes a model that is not registered. -/
def construct [Store σ] (s : Session σ) (name : String) (source : SchemaSource)
    (table : Option String) (synchronize : Bool) : Except Fault Model × Session σ :=
  match Model.make s.models.length s.registry.dialect s.registry.tableSuffix name source table
      synchronize with
  | .error fault => (.error fault, s)
  | .ok model => (.ok model, s.add model)

/-- Synchronizes all registered models in order. -/
def readyAll [Store σ] (s : Session σ) : Session σ :=
  s.registry.models.foldl (fun s entry => s.ready entry.2) s

/-- The names of all registered models with their reports. -/
def reports (s : Session σ) : List (String × Option Report) :=
  s.registry.models.map fun entry => (entry.1, s.reportOf entry.2.number)

/-- Calls an operation of a model and awaits its result. -/
def await [Store σ] (s : Session σ) (model : Model) (operation : Operation) :
    Except Fault Value × Session σ :=
  let (result, r) := model.await operation (s.running model.number)
  (result, s.resume model r)

/-- Calls an operation of a model with a callback. -/
def deliver [Store σ] (s : Session σ) (model : Model) (operation : Operation) :
    Except Fault Delivery × Session σ :=
  let (delivery, r) := model.deliver operation (s.running model.number)
  (delivery, s.resume model r)

/-- Whether a model has yet to be synchronized. -/
def isWaiting (s : Session σ) (model : Model) : Bool :=
  model.synchronize && (s.reportOf model.number).isNone

/-- Calls an operation that hands its work over where a query was asked for: what the call gives is
no query. Nothing waits for the work, so that it is only done if it need not wait for the
synchronization of the model. -/
def handOver [Store σ] {α : Type} (s : Session σ) (model : Model) (operation : Operation) :
    Except Fault α × Session σ :=
  match model.prepare operation with
  | .error fault => (.error fault, s)
  | .ok _ =>
    (.error (.lacksMember "Task" "exec"),
      if s.isWaiting model then s else (s.await model operation).2)

/-- Calls an operation without a callback where its work was to be cancelled: work that has not been
handed over cannot be. -/
def cancelUnstarted (model : Model) (operation : Operation) : Except Fault Delivery := do
  let _ ← model.prepare operation
  throw (.lacksMember "coroutine" "cancel")

/-- Calls an operation in some manner. A callback that is not where the operation expects it is
never called. -/
def call [Store σ] (s : Session σ) (model : Model) (invocation : Invocation) (manner : Manner) :
    Except Fault Delivery × Session σ :=
  if invocation.handsOver && manner != .outside then s.handOver model invocation.operation
  else
    match manner with
    | .awaited =>
      let (result, s) := s.await model invocation.operation
      (.ok ⟨[], result⟩, s)
    | .delivered =>
      let (delivery, s) := s.deliver model invocation.operation
      (delivery.map fun d => if invocation.withCallback then d else { d with completions := [] },
        s)
    | .cancelled =>
      (if invocation.withCallback then model.cancel invocation.operation
        else cancelUnstarted model invocation.operation, s)
    | .outside => (model.deliverOutside invocation.operation, s)

/-- The statement of a query after a chain of calls. -/
def compileChain (query : Query) (chain : List (String × List Value)) : Except Fault Statement := do
  (← query.applyNamed chain).compile

/-- The statement of the query of a filter, or of all documents, after a chain of calls. Something
to call in place of the filter hands work over, and where synchronization is deferred nothing runs
that could complete it. -/
def compile [Store σ] (s : Session σ) (model : Model) (conditions : Option Value)
    (chain : List (String × List Value)) : Except Fault Statement × Session σ :=
  match conditions with
  | none => (compileChain model.query chain, s)
  | some filter =>
    if filter.isCallable then
      if s.deferred then (.error .nothingRunning, s) else s.handOver model (.find .null [])
    else ((model.find filter).bind fun query => compileChain query chain, s)

end Session
end DocTable
