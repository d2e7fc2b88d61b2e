/-
# Calls with a callback and awaited calls

An operation is called by its name and its arguments, with a callback after them or without one.
Both calls name the same operation, do the same work and leave the same session. The callback is
called once, with the result that the awaited call gives: with the fault and nothing, or with no
fault and the value.

There is one exception. A selection compiles its filter while it is called, before there is any work
whose result could be handed over. A filter that does not compile is therefore a fault of the call
itself, and the callback is never called.
-/
import DocTable.Proofs.Model.Filters
import DocTable.Session

namespace DocTable

/-! ## Calls by name -/

namespace Invocation

/-- The values of a call with as many more as it takes to have all. -/
def filled (parameters : Nat) (values : List Value) : List Value :=
  values ++ List.replicate (parameters - values.length) Value.null

/-- The arguments of a call with a callback. It comes after all values, absent ones included. -/
def argumentsWithCallback (parameters : Nat) (values : List Value) : List Argument :=
  (filled parameters values).map Argument.value ++ [.callback]

section Named

variable {name : String} {least parameters : Nat} {values : List Value}

lemma valuesOnly?_values (values : List Value) :
    valuesOnly? (values.map .value) = some values := by
  induction values with
  | nil => rfl
  | cons v values ih =>
    rw [valuesOnly?] at ih
    rw [valuesOnly?, List.map_cons, List.mapM_cons, ih]
    rfl

lemma valuesOnly?_callback (values : List Value) :
    valuesOnly? (values.map .value ++ [.callback]) = none := by
  induction values with
  | nil => rfl
  | cons v values ih =>
    rw [valuesOnly?] at ih
    rw [valuesOnly?, List.map_cons, List.cons_append, List.mapM_cons, ih]
    rfl

lemma map_asValue (values : List Value) :
    (values.map Argument.value).map Argument.asValue = values := by
  simp [Function.comp_def, Argument.asValue]

/-- A call with values only is one without a callback. -/
lemma named_values (harity : arity? name = some (least, parameters))
    (hleast : least ≤ values.length) (hmost : values.length ≤ parameters) :
    named name (values.map .value) =
      (operationNamed name values).map fun operation =>
        ⟨operation, false, name == "find" && isHandedOver values⟩ := by
  have hlength : (values.map Argument.value).length = values.length := List.length_map ..
  have hcount : ¬((values.map Argument.value).length < least ∨
      parameters + 1 < (values.map Argument.value).length) := by omega
  have htake : (values.map Argument.value).take parameters = values.map .value :=
    List.take_of_length_le (by omega)
  have hplace : callbackInPlace name parameters (values.map .value) = false := by
    unfold callbackInPlace
    rw [List.drop_of_length_le (by omega)]
    rcases values with _ | ⟨v, _ | ⟨w, values⟩⟩
    · rfl
    · rfl
    · rfl
  simp only [named, harity, hcount, htake, map_asValue, hplace, valuesOnly?_values]
  cases operationNamed name values <;> rfl

lemma length_filled (hmost : values.length ≤ parameters) :
    (filled parameters values).length = parameters := by
  rw [filled, List.length_append, List.length_replicate]
  omega

/-- An argument that is absent is the absence of a value. -/
lemma operationNamed_filled (name : String) (parameters : Nat) (values : List Value) :
    operationNamed name (filled parameters values) = operationNamed name values := by
  rw [filled]
  generalize parameters - values.length = count
  have hhead : ∀ values : List Value,
      (values ++ List.replicate count Value.null).head?.getD .null =
        values.head?.getD .null := by
    intro values
    cases values with
    | nil => cases count <;> rfl
    | cons v values => rfl
  have hdrop : ((values ++ List.replicate count Value.null).drop 1).head?.getD .null =
      (values.drop 1).head?.getD .null := by
    cases values with
    | nil => rcases count with _ | _ | count <;> rfl
    | cons v values => exact hhead values
  simp only [operationNamed, hhead, hdrop]

/-- A call with a callback after all values hands its result over. -/
lemma named_callback (harity : arity? name = some (least, parameters))
    (hleast : least ≤ values.length) (hmost : values.length ≤ parameters) :
    named name (argumentsWithCallback parameters values) =
      (operationNamed name values).map fun operation => ⟨operation, true, false⟩ := by
  have hmapped : ((filled parameters values).map Argument.value).length = parameters := by
    rw [List.length_map, length_filled hmost]
  have hcount : ¬((argumentsWithCallback parameters values).length < least ∨
      parameters + 1 < (argumentsWithCallback parameters values).length) := by
    rw [argumentsWithCallback, List.length_append, hmapped, List.length_singleton]
    omega
  have htake : (argumentsWithCallback parameters values).take parameters =
      (filled parameters values).map .value := List.take_left' hmapped
  have hplace : callbackInPlace name parameters (argumentsWithCallback parameters values) =
      true := by
    unfold callbackInPlace
    rw [argumentsWithCallback, List.drop_left' hmapped]
  have hvalues : valuesOnly? (argumentsWithCallback parameters values) = none :=
    valuesOnly?_callback (filled parameters values)
  simp only [named, harity, hcount, htake, map_asValue, hplace, hvalues, operationNamed_filled]
  cases operationNamed name values with
  | error fault => rfl
  | ok operation => simp [Except.map]

lemma exists_operationNamed (harity : arity? name = some (least, parameters))
    (values : List Value) : ∃ operation, operationNamed name values = .ok operation := by
  unfold arity? at harity
  split at harity
  case h_10 => cases harity
  all_goals exact ⟨_, rfl⟩

/-- A search of documents is not handed over if nothing in its arguments can be called. -/
lemma isHandedOver_eq_false (hcallable : ∀ v ∈ values, v.isCallable = false)
    (hmost : values.length ≤ 1) : isHandedOver values = false := by
  rcases values with _ | ⟨v, _ | ⟨w, values⟩⟩
  · rfl
  · exact hcallable v List.mem_cons_self
  · rw [List.length_cons, List.length_cons] at hmost
    omega

/-- A selection of all documents takes its callback in place of the filter as well. -/
lemma named_callback_alone {operation : Operation} (hfirst : takesCallbackFirst name = true)
    (hoperation : operationNamed name [] = .ok operation) :
    named name [.callback] = .ok ⟨operation, true, false⟩ := by
  have hname : name = "find" ∨ name = "find_one" := by
    simpa [takesCallbackFirst] using hfirst
  rcases hname with rfl | rfl
  · cases hoperation
    rfl
  · cases hoperation
    rfl

/-- The calls of an operation by its name: without a callback and with one. -/
lemma exists_named (harity : arity? name = some (least, parameters))
    (hleast : least ≤ values.length) (hmost : values.length ≤ parameters)
    (hcallable : ∀ v ∈ values, v.isCallable = false) :
    ∃ operation, operationNamed name values = .ok operation ∧
      named name (values.map .value) = .ok ⟨operation, false, false⟩ ∧
      named name (argumentsWithCallback parameters values) = .ok ⟨operation, true, false⟩ ∧
      (values = [] → takesCallbackFirst name = true →
        named name [.callback] = .ok ⟨operation, true, false⟩) := by
  obtain ⟨operation, hoperation⟩ := exists_operationNamed harity values
  have hhands : (name == "find" && isHandedOver values) = false := by
    by_cases hname : name = "find"
    · subst hname
      cases harity
      rw [isHandedOver_eq_false hcallable hmost, Bool.and_false]
    · simp [hname]
  refine ⟨operation, hoperation, ?_, ?_, ?_⟩
  · rw [named_values harity hleast hmost, hoperation, hhands]
    rfl
  · rw [named_callback harity hleast hmost, hoperation]
    rfl
  · rintro rfl hfirst
    exact named_callback_alone hfirst hoperation

end Named

end Invocation

/-! ## What is compiled while an operation is called -/

namespace Operation

/-- The filter that is compiled while an operation is called. Only selections have one. -/
def filter? : Operation → Option Value
  | .find conditions _ => some conditions
  | .findFirst conditions _ => some conditions
  | .findById id => some (.map [(.text identityField, id)])
  | _ => none

/-- The further calls on the query of an operation. -/
def chain : Operation → List (String × List Value)
  | .find _ calls => calls
  | .findFirst _ calls => calls
  | _ => []

/-- An operation that is called by its name makes no further calls. -/
lemma chain_of_operationNamed {name : String} {values : List Value} {operation : Operation}
    (h : Invocation.operationNamed name values = .ok operation) : operation.chain = [] := by
  unfold Invocation.operationNamed at h
  split at h <;> cases h <;> rfl

end Operation

namespace Model

variable {m : Model} {operation : Operation} {fault : Fault}

lemma findThen_nil (conditions : Value) : m.findThen conditions [] = m.find conditions := by
  rw [findThen]
  cases m.find conditions <;> rfl

/-- The preparation of an operation fails exactly where its filter does not compile. -/
lemma prepare_eq_error_iff (hchain : operation.chain = []) :
    m.prepare operation = .error fault ↔
      ∃ filter, operation.filter? = some filter ∧
        compileFilter m.dialect filter = .error fault := by
  cases operation with
  | find conditions calls =>
    obtain rfl : calls = [] := hchain
    rw [prepare, findThen_nil]
    simp [Operation.filter?, bind_eq_error_iff, find_eq_error_iff]
  | findFirst conditions calls =>
    obtain rfl : calls = [] := hchain
    rw [prepare, findThen_nil]
    simp [Operation.filter?, bind_eq_error_iff, find_eq_error_iff]
  | findById id =>
    rw [prepare]
    simp [Operation.filter?, bind_eq_error_iff, find_eq_error_iff]
  | create document => simp [prepare, Operation.filter?]
  | update conditions changes single => simp [prepare, Operation.filter?]
  | delete conditions single => simp [prepare, Operation.filter?]
  | aggregate pipeline => simp [prepare, Operation.filter?]

variable {σ : Type} [Store σ]

/-- A prepared operation delivers what awaiting it gives. -/
lemma deliver_of_prepare_ok {work : Work} (h : m.prepare operation = .ok work) (r : Running σ) :
    m.deliver operation r =
      (.ok (.ofResult (m.await operation r).1), (m.await operation r).2) := by
  rw [deliver, await, h]

lemma await_of_prepare_error (h : m.prepare operation = .error fault) (r : Running σ) :
    m.await operation r = (.error fault, r) := by
  rw [await, h]

lemma deliver_of_prepare_error (h : m.prepare operation = .error fault) (r : Running σ) :
    m.deliver operation r = (.error fault, r) := by
  rw [deliver, h]

end Model

/-! ## The two calls of an operation -/

namespace Session

variable {σ : Type} [Store σ]

/-- An operation is called by its name with values none of which can be called: without a callback,
and with one after the values, or in place of a filter that is left out. If the filter of a
selection compiles, or if there is none to compile, both calls leave the same session, and the
callback is called once with the result that the other call awaits. If the filter does not compile,
both calls leave the store, the log and the draws as they were, and the fault that is awaited
without a callback is raised by the call itself with one. -/
theorem call_delivered (s : Session σ) (m : Model) (name : String) (values : List Value)
    {least parameters : Nat} (harity : Invocation.arity? name = some (least, parameters))
    (hleast : least ≤ values.length) (hmost : values.length ≤ parameters)
    (hcallable : ∀ v ∈ values, v.isCallable = false) :
    ∃ operation result after,
      Invocation.named name (values.map .value) = .ok ⟨operation, false, false⟩ ∧
      Invocation.named name (Invocation.argumentsWithCallback parameters values) =
        .ok ⟨operation, true, false⟩ ∧
      (values = [] → Invocation.takesCallbackFirst name = true →
        Invocation.named name [.callback] = .ok ⟨operation, true, false⟩) ∧
      s.call m ⟨operation, false, false⟩ .awaited = (.ok ⟨[], result⟩, after) ∧
      ((∀ filter, operation.filter? = some filter →
          ∃ clauses, compileFilter m.dialect filter = .ok clauses) →
        s.call m ⟨operation, true, false⟩ .delivered =
          (.ok ⟨[.ofResult result], result⟩, after)) ∧
      (∀ filter fault, operation.filter? = some filter →
        compileFilter m.dialect filter = .error fault →
        s.call m ⟨operation, true, false⟩ .delivered = (.error fault, after) ∧
          result = .error fault ∧ after.surroundings = s.surroundings) := by
  obtain ⟨operation, hoperation, hawaited, hdelivered, halone⟩ :=
    Invocation.exists_named harity hleast hmost hcallable
  have hchain := Operation.chain_of_operationNamed hoperation
  refine ⟨operation, (m.await operation (s.running m.number)).1,
    s.resume m (m.await operation (s.running m.number)).2, hawaited, hdelivered, halone, rfl,
    ?_, ?_⟩
  · intro hcompiles
    cases hprepare : m.prepare operation with
    | error fault =>
      obtain ⟨filter, hfilter, hfault⟩ := (Model.prepare_eq_error_iff hchain).1 hprepare
      obtain ⟨clauses, hclauses⟩ := hcompiles filter hfilter
      rw [hclauses] at hfault
      cases hfault
    | ok work =>
      have hdeliver := Model.deliver_of_prepare_ok hprepare (s.running m.number)
      simp only [call, deliver, hdeliver]
      rfl
  · intro filter fault hfilter hfault
    have hprepare := (Model.prepare_eq_error_iff hchain).2 ⟨filter, hfilter, hfault⟩
    rw [Model.await_of_prepare_error hprepare]
    refine ⟨?_, rfl, rfl⟩
    simp only [call, deliver, Model.deliver_of_prepare_error hprepare]
    rfl

/-- A session with a model of users that has yet to be synchronized. -/
def withUsers : Session ScriptedStore :=
  { Session.start (.empty ⟨.sqlite, 255⟩ "s") true Synchronizer.partialStore with
    models := [(.ofUsers, none)] }

/-- A filter whose operand has a tuple for a key. -/
def unencodable : Value := .map [(.text "age", .map [(.tuple [.int 1], .int 2)])]

/-- The search for a name is delivered as it is awaited. The search by a filter that does not
compile fails while it is called. -/
theorem call_delivered_withUsers :
    (∃ result after,
      withUsers.call .ofUsers ⟨.find (.map [(.text "name", .text "Ann")]) [], false, false⟩
        .awaited = (.ok ⟨[], result⟩, after) ∧
      withUsers.call .ofUsers ⟨.find (.map [(.text "name", .text "Ann")]) [], true, false⟩
        .delivered = (.ok ⟨[.ofResult result], result⟩, after)) ∧
    ∃ fault after,
      withUsers.call .ofUsers ⟨.find unencodable [], false, false⟩ .awaited =
        (.ok ⟨[], .error fault⟩, after) ∧
      withUsers.call .ofUsers ⟨.find unencodable [], true, false⟩ .delivered =
        (.error fault, after) ∧
      after.surroundings = withUsers.surroundings := by
  have harity : Invocation.arity? "find" = some (0, 1) := rfl
  constructor
  · obtain ⟨operation, result, after, hnamed, -, -, hawaited, hdelivered, -⟩ :=
      call_delivered withUsers .ofUsers "find" [.map [(.text "name", .text "Ann")]] harity
        (by decide) (by decide) (by simp [Value.isCallable])
    obtain rfl : .find (.map [(.text "name", .text "Ann")]) [] = operation := by
      cases hnamed
      rfl
    refine ⟨result, after, hawaited, hdelivered ?_⟩
    intro filter hfilter
    cases hfilter
    exact ⟨_, rfl⟩
  · obtain ⟨operation, result, after, hnamed, -, -, hawaited, -, hraised⟩ :=
      call_delivered withUsers .ofUsers "find" [unencodable] harity
        (by decide) (by decide) (by simp [unencodable, Value.isCallable])
    obtain rfl : .find unencodable [] = operation := by
      cases hnamed
      rfl
    obtain ⟨hdelivered, rfl, hsame⟩ := hraised unencodable _ rfl rfl
    exact ⟨_, after, hawaited, hdelivered, hsame⟩

/-- The call of such a search raises, and its callback is not called; the callback of the deletion
by the same filter is called with the fault. -/
theorem call_delivered_unencodable :
    Invocation.named "find" [.value unencodable, .callback] =
        .ok ⟨.find unencodable [], true, false⟩ ∧
      (withUsers.call .ofUsers ⟨.find unencodable [], false, false⟩ .awaited).1 =
        .ok ⟨[], .error (.unfit "a key cannot be of type tuple")⟩ ∧
      (withUsers.call .ofUsers ⟨.find unencodable [], true, false⟩ .delivered).1 =
        .error (.unfit "a key cannot be of type tuple") ∧
      (withUsers.call .ofUsers ⟨.delete unencodable false, true, false⟩ .delivered).1 =
        .ok (.ofResult (.error (.unfit "a key cannot be of type tuple"))) :=
  ⟨rfl, rfl, rfl, rfl⟩

end Session
end DocTable
