/-
# Filling in defaults

A document gets the default of every declared field that it does not hold, at every depth where it
holds a mapping. A default that can be called is called once for each gap it fills; what a producer
yields next depends on how often it has been drawn from, so filling carries the draws from the
producers along. Filling may fail half way: what has been filled and drawn by then stays.

A producer yields its last value again and again, and always the very same one. A sequence that is
filled can be given such a value at one name and have it filled in turn at another name of the same
place; the next draw then finds it filled.
-/
import DocTable.Schema.Descriptor
import DocTable.Value.Document

namespace DocTable
namespace Codec

/-- A value that a producer has yielded: the producer, and which of its values it is. -/
abbrev Origin := Nat × Nat

/-- What is known of the producers. -/
structure Draws where
  /-- How often each producer has been drawn from. -/
  count : Nat → Nat
  /-- The yielded values that have been filled since. -/
  filled : List (Origin × Value)
  /-- The places of the sequence at hand that hold yielded values. -/
  lent : List (Nat × Origin)

namespace Draws

/-- One more draw from a producer. -/
def next (draws : Draws) (id : Nat) : Draws :=
  { draws with
    count := fun other => if other = id then draws.count other + 1 else draws.count other }

/-- Which of its values a producer yields next: the last one once they are used up. -/
def turn (draws : Draws) (id : Nat) (yields : List Value) : Nat :=
  min (draws.count id) (yields.length - 1)

/-- The value that a default would give next, if a producer yields it. -/
def origin? (draws : Draws) : Value → Option Origin
  | .producer id _ yields => some (id, draws.turn id yields)
  | _ => none

/-- The draws with a place of a sequence taken by a value. -/
def lend (draws : Draws) (place : Nat) (origin : Option Origin) : Draws :=
  let others := draws.lent.filter fun loan => loan.1 != place
  { draws with lent := (origin.map fun o => (place, o)).toList ++ others }

/-- The draws after the value at a place of a sequence has been filled. -/
def fill (draws : Draws) (place : Nat) (value : Value) : Draws :=
  match draws.lent.lookup place with
  | some origin => { draws with filled := (origin, value) :: draws.filled }
  | none => draws

/-- The draws when a new document is at hand. -/
def anew (draws : Draws) : Draws := { draws with lent := [] }

end Draws

/-- No producer has been drawn from. -/
def noDraws : Draws := ⟨fun _ => 0, [], []⟩

/-- The value of a type that calling the type gives. -/
def emptyOf : TypeMarker → Except Fault Value
  | .text => .ok (.text "")
  | .integer => .ok (.int 0)
  | .boolean => .ok (.bool false)
  | .map => .ok (.map [])
  | .list => .ok (.list [])
  | .float => .ok (.float .zero)
  | .tuple => .ok (.tuple [])
  | .set => .ok (.set [])
  | .bytes => .ok (.bytes [])
  | marker => .error (.unfit (marker.name ++ " cannot be made of nothing"))

/-! ## Copies -/

/-- How many steps down a copy goes at a value that holds no others. -/
def leafSteps : Nat := 2

/-- The greatest number of steps down that a copy can go. -/
def copySteps : Nat := 992

mutual

/-- How many steps down a copy of a value goes. -/
def depthOfCopy : Value → Nat
  | .list items => 2 + depthOfCopies items
  | .tuple items => 3 + depthOfCopies items
  | .set items => 5 + depthOfCopies items
  | .map entries => 2 + depthOfEntryCopies entries
  | _ => leafSteps

/-- How many steps down copies of values go. -/
def depthOfCopies : List Value → Nat
  | [] => 0
  | v :: rest => max (depthOfCopy v) (depthOfCopies rest)

/-- How many steps down copies of the keys and values of entries go. -/
def depthOfEntryCopies : List (Value × Value) → Nat
  | [] => 0
  | (k, v) :: rest => max (max (depthOfCopy k) (depthOfCopy v)) (depthOfEntryCopies rest)

end

/-- A copy of a value, unless it is nested too deeply. -/
def copied (v : Value) : Except Fault Value :=
  if copySteps < depthOfCopy v then .error .tooDeep else .ok v

/-! ## Defaults -/

/-- What a producer yields next. -/
def Draws.yielded (draws : Draws) (id : Nat) (yields : List Value) : Except Fault Value :=
  let number := draws.turn id yields
  match draws.filled.lookup (id, number), yields[number]? with
  | some v, _ => .ok v
  | none, some v => .ok v
  | none, none => .error .noItem

/-- The value that a default gives, and the draws after it. -/
def resolveDefault (draws : Draws) : Value → Except Fault Value × Draws
  | .type marker => (emptyOf marker, draws)
  | .producer id _ yields => (draws.yielded id yields, draws.next id)
  | v => (copied v, draws)

/-- A document on the way to holding all its defaults. -/
structure Filling where
  /-- The document as filled so far. -/
  document : Value
  /-- The draws so far. -/
  draws : Draws
  /-- What stopped the filling, if anything did. -/
  fault : Option Fault

/-- The place that a name has in a document that is a sequence. -/
def placeOf? (document name : Value) : Option Nat :=
  match document with
  | .list items => (Value.index? items.length name).toOption
  | _ => none

/-- Fills the gap of a field that the document does not hold. -/
def fillGap (name : Value) (default : Option Value) (document : Value) (draws : Draws) : Filling :=
  match default with
  | none => ⟨document, draws, none⟩
  | some v =>
    let origin := draws.origin? v
    match resolveDefault draws v with
    | (.error fault, draws) => ⟨document, draws, some fault⟩
    | (.ok value, draws) =>
      match document.assign name value with
      | .error fault => ⟨document, draws, some fault⟩
      | .ok filled =>
        ⟨filled, ((placeOf? document name).map fun i => draws.lend i origin).getD draws, none⟩

mutual

/-- Fills in the default of one field, or the defaults of its sub-fields in the mapping that the
document holds there. -/
def fillField (name : Value) : Descriptor → Value → Draws → Filling
  | ⟨_, default, nested⟩, document, draws =>
    match document.holds name with
    | .error fault => ⟨document, draws, some fault⟩
    | .ok false => fillGap name default document draws
    | .ok true =>
      match document.item name with
      | .error fault => ⟨document, draws, some fault⟩
      | .ok value =>
        match nested with
        | none => ⟨document, draws, none⟩
        | some fields =>
          if value.isMap then
            let inner := fillFields fields value draws
            ⟨document.replaced name inner.document,
              ((placeOf? document name).map fun i => inner.draws.fill i inner.document).getD
                inner.draws,
              inner.fault⟩
          else ⟨document, draws, none⟩

/-- Fills in the defaults of fields in order of declaration. -/
def fillFields : List (Value × Descriptor) → Value → Draws → Filling
  | [], document, draws => ⟨document, draws, none⟩
  | (name, d) :: rest, document, draws =>
    let filling := fillField name d document draws
    match filling.fault with
    | some _ => filling
    | none => fillFields rest filling.document filling.draws

end

end Codec
end DocTable
