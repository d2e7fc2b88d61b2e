/-
# Delivery of results

Every operation is one unit of work. Its result is awaited, or else handed to a callback that takes
a fault and a value: the fault and nothing, or no fault and the value. Both see the same work and
the same result. A call with a callback needs something running that can complete it; whatever
prevents the preparation of the work is a fault of the call itself.
-/
import DocTable.Model.Operation

namespace DocTable

/-- What a callback is called with. -/
structure Completion where
  /-- Why the work failed, if it did. -/
  fault : Option Fault
  /-- The result of the work, or nothing. -/
  value : Value

/-- What came of a call with a callback: the calls of the callback, and the result that awaiting the
work gives. -/
structure Delivery where
  /-- The calls of the callback, in order. -/
  completions : List Completion
  /-- The result of the work. -/
  result : Except Fault Value

/-- What a callback is called with for a result. -/
def Completion.ofResult : Except Fault Value → Completion
  | .ok value => ⟨none, value⟩
  | .error fault => ⟨some fault, .null⟩

/-- The delivery of a result to a callback. -/
def Delivery.ofResult (result : Except Fault Value) : Delivery := ⟨[.ofResult result], result⟩

namespace Model

variable {σ : Type}

/-- Calls an operation and awaits its result. -/
def await [Store σ] (m : Model) (operation : Operation) (r : Running σ) :
    Except Fault Value × Running σ :=
  match m.prepare operation with
  | .error fault => (.error fault, r)
  | .ok work =>
    let performed := m.perform work r
    (performed.result, performed.running)

/-- Calls an operation with a callback. -/
def deliver [Store σ] (m : Model) (operation : Operation) (r : Running σ) :
    Except Fault Delivery × Running σ :=
  match m.prepare operation with
  | .error fault => (.error fault, r)
  | .ok work =>
    let performed := m.perform work r
    (.ok (.ofResult performed.result), performed.running)

/-- Calls an operation with a callback and cancels the work before it starts. -/
def cancel (m : Model) (operation : Operation) : Except Fault Delivery := do
  let _ ← m.prepare operation
  return .ofResult (.error .cancelled)

/-- Calls an operation with a callback where nothing runs that could complete it. -/
def deliverOutside (m : Model) (operation : Operation) : Except Fault Delivery := do
  let _ ← m.prepare operation
  throw .nothingRunning

end Model
end DocTable
