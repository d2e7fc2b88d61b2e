/-
# Making failures

A failure of each kind from arguments of any type, in the order in which its details are listed.
-/
import DocTable.Value.Elements

namespace DocTable
namespace Failure

/-- The least and the greatest number of arguments of a kind of failure. -/
def argumentCounts : FailureKind → Nat × Nat
  | .general => (1, 3)
  | .statement => (1, 3)
  | .structural => (2, 4)
  | .unregistered => (1, 1)

/-- The parameters of a rejected statement: the elements of what holds some; what is absent or empty
has none. -/
def parameters (v : Value) : Except Fault (List Value) :=
  match (v.orElse (.tuple [])).elements? with
  | some items => .ok items
  | none => .error v.notIterable

/-- The failure of a kind that arguments describe. Those that are missing are absent. -/
def make (kind : FailureKind) (arguments : List Value) : Except Fault Failure := do
  let (least, greatest) := argumentCounts kind
  if arguments.length < least ∨ greatest < arguments.length then
    throw (.unfit "a failure was made with the wrong number of arguments")
  let first := arguments[0]?.getD .null
  let second := arguments[1]?.getD .null
  let third := arguments[2]?.getD .null
  let fourth := arguments[3]?.getD .null
  match kind with
  | .general => return general first.plain (second.orElse (.text "")).plain third
  | .statement => return rejected first.plain second (← parameters third)
  | .structural => return structural first.plain second third fourth
  | .unregistered => return unregistered first

end Failure
end DocTable
