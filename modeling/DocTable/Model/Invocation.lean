/-
# Calling operations by name

The operations of a model by their names, with arguments in order. The callback comes after all
other arguments; a selection also takes it in place of its filter. Anything that is given where the
callback belongs counts as one, and so does something to call in place of the filter of a selection.
Such a selection is handed over at once, and what comes back is no query any more.
-/
import DocTable.Model.Delivery

namespace DocTable

/-- An argument of a call. -/
inductive Argument where
  /-- A value. -/
  | value (v : Value)
  /-- The callback. -/
  | callback

/-- A call of an operation. -/
structure Invocation where
  /-- The operation. -/
  operation : Operation
  /-- Whether its result goes to the callback. -/
  withCallback : Bool
  /-- Whether the call is asked for a query, but hands its work over instead. -/
  handsOver : Bool

/-- The manner of a call. -/
inductive Manner where
  /-- The result is awaited. -/
  | awaited
  /-- The result goes to the callback. -/
  | delivered
  /-- The result goes to the callback, but the work is cancelled before it starts. -/
  | cancelled
  /-- The result goes to the callback, and nothing runs that could complete the work. -/
  | outside
deriving DecidableEq

namespace Invocation

/-- The least number of arguments of an operation, and the number of arguments before the
callback. -/
def arity? : String → Option (Nat × Nat)
  | "create" => some (1, 1)
  | "find" => some (0, 1)
  | "find_one" => some (0, 1)
  | "find_by_id" => some (1, 1)
  | "update" => some (2, 2)
  | "update_one" => some (2, 2)
  | "delete_one" => some (0, 1)
  | "delete_many" => some (0, 1)
  | "aggregate" => some (1, 1)
  | _ => none

/-- Something that can be called, as a value. -/
def callable : Value := .producer 0 none []

/-- An argument as a value. -/
def Argument.asValue : Argument → Value
  | .value v => v
  | .callback => callable

/-- A filter argument as a value: a callable one filters nothing. -/
def filterOf (v : Value) : Value := if v.isCallable then .null else v

/-- The operation of a name and the values before the callback. -/
def operationNamed (name : String) (arguments : List Value) : Except Fault Operation :=
  let first := arguments.head?.getD .null
  let second := (arguments.drop 1).head?.getD .null
  match name with
  | "create" => .ok (.create first)
  | "find" => .ok (.find (filterOf first) [])
  | "find_one" => .ok (.findFirst (filterOf first) [])
  | "find_by_id" => .ok (.findById first)
  | "update" => .ok (.update first second false)
  | "update_one" => .ok (.update first second true)
  | "delete_one" => .ok (.delete first true)
  | "delete_many" => .ok (.delete first false)
  | "aggregate" => .ok (.aggregate first)
  | name => .error (.unfit ("a model has no operation " ++ name))

/-- Whether an operation takes its callback in place of a filter. -/
def takesCallbackFirst (name : String) : Bool := name == "find" || name == "find_one"

/-- Whether the callback is where an operation expects it. -/
def callbackInPlace (name : String) (parameters : Nat) (arguments : List Argument) : Bool :=
  match arguments.drop parameters with
  | [.callback] => true
  | [] =>
    match arguments with
    | [.callback] => takesCallbackFirst name
    | _ => false
  | _ => false

/-- Whether the arguments of a search of documents hand its work over: a callback is given, or
something to call is in place of the filter. -/
def isHandedOver : List Value → Bool
  | [filter] => filter.isCallable
  | [filter, .null] => filter.isCallable
  | [_, _] => true
  | _ => false

/-- The values of arguments, if the callback is not among them. -/
def valuesOnly? (arguments : List Argument) : Option (List Value) :=
  arguments.mapM fun argument =>
    match argument with
    | .value v => some v
    | .callback => none

/-- The call of a name and its arguments. -/
def named (name : String) (arguments : List Argument) : Except Fault Invocation := do
  let some (least, parameters) := arity? name
    | throw (.unfit ("a model has no operation " ++ name))
  if arguments.length < least ∨ parameters + 1 < arguments.length then
    throw (.unfit (name ++ " was called with the wrong number of arguments"))
  let values := (arguments.take parameters).map Argument.asValue
  return { operation := ← operationNamed name values
           withCallback := callbackInPlace name parameters arguments
           handsOver := name == "find" && (valuesOnly? arguments).any isHandedOver }

/-- The selection of all documents of a filter or of the first one, after further calls. -/
def selection (first : Bool) (filter : Value) (calls : List (String × List Value)) : Operation :=
  if first then .findFirst filter calls else .find filter calls

/-- The selection that a chain of calls on the query of a filter makes. Without a query there is
nothing to call, and the filter alone selects. -/
def chained (first : Bool) (arguments : List Value) (chain : List (String × List Value)) :
    Except Fault Invocation :=
  let filter := filterOf (arguments.head?.getD .null)
  if 2 < arguments.length then .error (.unfit "find was called with the wrong number of arguments")
  else if isHandedOver arguments then .ok ⟨.find filter [], true, true⟩
  else .ok ⟨selection first filter chain, true, false⟩

end Invocation
end DocTable
