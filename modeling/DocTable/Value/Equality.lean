/-
# Equality of values

Two values are equal when they stand for the same thing: numbers of all types by their exact value,
truth values among them as one and zero, sequences item by item, mappings whatever the order of
their entries. What is no number is not equal to itself, yet an item of a sequence or a key is found
again where that very occurrence stands. A signaling one cannot be compared with numbers at all, so
the answer to a comparison may be missing.
-/
import DocTable.Value.Basic

namespace DocTable
namespace Value

/-- The exact value of a number; a truth value counts as one or zero. -/
def exactValue? : Value → Option Number.Exact
  | bool b => some (.ofInt b.toInt)
  | int n => some (.ofInt n)
  | float x => x.exactValue?
  | decimal x => x.exactValue?
  | _ => none

/-- Whether a value is of a type of numbers; truth values are. -/
def isNumeric : Value → Bool
  | bool _ => true
  | int _ => true
  | float _ => true
  | decimal _ => true
  | _ => false

/-- Whether a value is a signaling decimal that is no number. -/
def isSignaling : Value → Bool
  | decimal x => x.isSignaling
  | _ => false

/-- Whether a value is of a type of numbers and yet no number. -/
def isNaN : Value → Bool
  | float x => x.isNaN
  | decimal (.nan ..) => true
  | _ => false

/-- Whether two values are the very same occurrence of what is no number. -/
def isOccurrence (a b : Value) : Bool :=
  match a, b with
  | float x, float y => x.isNaN && x == y
  | decimal (.nan s t p i), decimal (.nan s' t' p' j) => s == s' && t == t' && p == p' && i == j
  | _, _ => false

/-- Whether two values are equal numbers. -/
def equalNumbers? (a b : Value) : Option Bool :=
  if a.isNumeric && b.isNumeric then
    if a.isSignaling || b.isSignaling then none
    else
      match a.exactValue?, b.exactValue? with
      | some x, some y => some (x == y)
      | _, _ => some false
  else some false

mutual

/-- Whether two values are equal. -/
def equal? : Value → Value → Option Bool
  | null, b => match b with
    | null => some true
    | _ => some false
  | text s, b => match b with
    | text t => some (s == t)
    | _ => some false
  | bytes s, b => match b with
    | bytes t => some (s == t)
    | _ => some false
  | timestamp s, b => match b with
    | timestamp t => some (s.same t)
    | _ => some false
  | date s, b => match b with
    | date t => some (s == t)
    | _ => some false
  | list xs, b => match b with
    | list ys => if xs.length == ys.length then equalItems? xs ys else some false
    | _ => some false
  | tuple xs, b => match b with
    | tuple ys => equalItems? xs ys
    | _ => some false
  | set xs, b => match b with
    | set ys => if xs.length == ys.length then equalItems? xs ys else some false
    | _ => some false
  | map es, b => match b with
    | map fs => if es.length == fs.length then equalEntries? es fs else some false
    | _ => some false
  | type m, b => match b with
    | type n => some (m == n)
    | _ => some false
  | kind k, b => match b with
    | kind l => some (k == l)
    | _ => some false
  | operator o, b => match b with
    | operator p => some (o == p)
    | _ => some false
  | pattern s, b => match b with
    | pattern t => some (s == t)
    | _ => some false
  | producer i _ _, b => match b with
    | producer j _ _ => some (i == j)
    | _ => some false
  | outcome i n, b => match b with
    | outcome j m => some (i == j && n == m)
    | _ => some false
  | a, b => equalNumbers? a b

/-- Whether two sequences have matching items in the same order. -/
def equalItems? : List Value → List Value → Option Bool
  | [], ys => some ys.isEmpty
  | _ :: _, [] => some false
  | x :: xs, y :: ys =>
    match if x.isOccurrence y then some true else equal? x y with
    | some true => equalItems? xs ys
    | answer => answer

/-- Whether every entry has one of a matching key and a matching value among the given entries. -/
def equalEntries? : List (Value × Value) → List (Value × Value) → Option Bool
  | [], _ => some true
  | (k, v) :: es, fs =>
    match fs.find? fun entry => k.isOccurrence entry.1 || equal? k entry.1 == some true with
    | none => some false
    | some (_, w) =>
      match if v.isOccurrence w then some true else equal? v w with
      | some true => equalEntries? es fs
      | answer => answer

end

/-- Whether an item or a key matches a value: it is the same occurrence or equal. -/
def matches? (a b : Value) : Option Bool :=
  if a.isOccurrence b then some true else a.equal? b

/-- Whether two keys are the same. Keys can always be compared. -/
def same (a b : Value) : Bool := a.matches? b == some true

end Value
end DocTable
