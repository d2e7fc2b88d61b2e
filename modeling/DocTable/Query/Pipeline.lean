/-
# Aggregation pipelines

A pipeline is a sequence of stages, each a mapping with one key that names the stage. Its stages are
folded into the parts of one selection: filters accumulate, sort keys accumulate, a projection or a
grouping replaces the select list, and a limit or an offset replaces the one before it. What is not
recognised as a stage is passed over.
-/
import DocTable.Query.Selection
import DocTable.Query.Sort
import DocTable.Value.Document

namespace DocTable
namespace Pipeline

/-- A stage of a pipeline. -/
inductive Stage where
  /-- Keep the rows of a filter. -/
  | filter (conditions : Entries)
  /-- Select columns. -/
  | project (spec : Entries)
  /-- Group rows and accumulate columns. -/
  | group (spec : Entries)
  /-- Sort by paths and directions. -/
  | sort (keys : Entries)
  /-- Bound the number of rows. -/
  | limit (count : Value)
  /-- Pass over rows. -/
  | skip (count : Value)
  /-- Nothing that is known. -/
  | unknown

/-- The stage of a name and a payload. -/
def Stage.named (name : String) (payload : Value) : Stage :=
  match name, payload with
  | "match", .map conditions => filter conditions
  | "project", .map spec => project spec
  | "group", .map spec => group spec
  | "sort", .map keys => sort keys
  | "limit", count => limit count
  | "skip", count => skip count
  | _, _ => unknown

/-- The stage that a value spells. -/
def Stage.ofValue : Value → Stage
  | .map [(name, payload)] => named (Operator.word name.plain) payload
  | _ => unknown

/-! ## Select lists -/

/-- Whether a path of any type leads into a column. -/
def leadsInside : Value → Except Fault Bool
  | .text path => .ok (Path.isNested path)
  | v => v.holds (.text (String.singleton Path.separator))

/-- The expression of a path under a label; a column under its own name needs none. -/
def labelled (d : Dialect) (path label : Value) : Except Fault String := do
  let expression := Path.compile d path.plain
  if !(← leadsInside path) && path.same label then return expression
  else return expression ++ " AS " ++ (← Dialect.quoteValue label)

/-- The path that a projected name stands for: the identity has a second name. -/
def projectedPath (name : Value) : Value := if name.same (.text "_id") then .text "id" else name

/-- The select list of a projection: the names whose flag counts as true. -/
def compileProject (d : Dialect) : Entries → Except Fault (List String)
  | [] => .ok []
  | (name, flag) :: rest =>
    if flag.isTruthy then do
      let path := projectedPath name
      let column ← labelled d path path
      return column :: (← compileProject d rest)
    else compileProject d rest

/-- The functions that accumulate a column. -/
def accumulators : List (String × String) :=
  [("sum", "SUM"), ("avg", "AVG"), ("max", "MAX"), ("min", "MIN")]

/-- The select list and the grouping expressions of a grouping. -/
structure Grouping where
  /-- The expressions selected. -/
  columns : List String
  /-- The expressions grouped by. -/
  keys : List String

/-- The paths and labels of a grouping key: a reference, or a mapping of labels to references. -/
def groupingKeys : Value → List (String × Value)
  | .text reference =>
    let path := Text.dropLeading '$' reference
    [(path, .text path)]
  | .map references =>
    references.filterMap fun entry =>
      match entry with
      | (label, .text reference) => some (Text.dropLeading '$' reference, label)
      | _ => none
  | _ => []

/-- The select list and the grouping expressions of grouping keys. -/
def compileKeys (d : Dialect) : List (String × Value) → Except Fault Grouping
  | [] => .ok ⟨[], []⟩
  | (path, label) :: rest => do
    let column ← labelled d (.text path) label
    let others ← compileKeys d rest
    return ⟨column :: others.columns, Path.compile d path :: others.keys⟩

/-- What an accumulator is applied to: a referenced column or a number. -/
def accumulated? (d : Dialect) : Value → Option String
  | .text reference => some (Path.compile d (Text.dropLeading '$' reference))
  | .int n => some (Int.repr n)
  | .float x => some (x.text Binary64.shownNames)
  | _ => none

/-- The select list of the accumulators of one column. -/
def compileAccumulators (d : Dialect) (label : Value) : Entries → Except Fault (List String)
  | [] => .ok []
  | (accumulator, source) :: rest =>
    match accumulators.lookup (Operator.word accumulator.plain), accumulated? d source with
    | some function, some argument => do
      let column := function ++ "(" ++ argument ++ ") AS " ++ (← Dialect.quoteValue label)
      return column :: (← compileAccumulators d label rest)
    | _, _ => compileAccumulators d label rest

/-- The select list and the grouping expressions of one entry of a grouping. -/
def compileGroupEntry (d : Dialect) (key value : Value) : Except Fault Grouping :=
  if key.same (.text "_id") then compileKeys d (groupingKeys value)
  else
    match value with
    | .map accumulators => do return ⟨← compileAccumulators d key accumulators, []⟩
    | _ => .ok ⟨[], []⟩

/-- The select list and the grouping expressions of a grouping. -/
def compileGroup (d : Dialect) : Entries → Except Fault Grouping
  | [] => .ok ⟨[], []⟩
  | (key, value) :: rest => do
    let first ← compileGroupEntry d key value
    let others ← compileGroup d rest
    return ⟨first.columns ++ others.columns, first.keys ++ others.keys⟩

/-! ## Folding the stages -/

/-- What the stages so far have gathered. -/
structure State where
  /-- The select list; everything if it is empty. -/
  columns : List String
  /-- The clauses of all filters. -/
  conditions : List Statement
  /-- The grouping expressions. -/
  grouping : List String
  /-- The sort keys. -/
  order : List String
  /-- The limit. -/
  limit : Option Int
  /-- The offset. -/
  offset : Option Int

/-- The state before the first stage. -/
def State.start : State := ⟨[], [], [], [], none, none⟩

/-- The bound that a payload stands for. What cannot be read as a number stands for none, and a
truth value is no number here; an infinite number is a fault. -/
def boundOf (count : Value) : Except Fault (Option Int) :=
  match count with
  | .bool _ => .ok none
  | count =>
    match count.whole with
    | .ok n => .ok (some n)
    | .error (.outOfRange reason) => .error (.outOfRange reason)
    | .error _ => .ok none

/-- The state after a stage. A projection or a grouping that selects nothing changes nothing. -/
def State.step (d : Dialect) (s : State) : Stage → Except Fault State
  | .filter conditions => do
    return { s with conditions := s.conditions ++ (← compileFilter d (.map conditions)) }
  | .project spec => do
    let columns ← compileProject d spec
    return if columns.isEmpty then s else { s with columns := columns }
  | .group spec => do
    let grouping ← compileGroup d spec
    return if grouping.columns.isEmpty then s
      else { s with columns := grouping.columns, grouping := grouping.keys }
  | .sort keys =>
    .ok { s with order := s.order ++ keys.map fun key => compileSort d key.1 key.2 }
  | .limit count => do return { s with limit := ← boundOf count }
  | .skip count => do return { s with offset := ← boundOf count }
  | .unknown => .ok s

/-- The state after some stages. -/
def State.run (d : Dialect) (s : State) : List Stage → Except Fault State
  | [] => .ok s
  | stage :: stages => do State.run d (← s.step d stage) stages

/-- The selection of a state. -/
def State.selection (d : Dialect) (s : State) : Except Fault Selection := do
  let bounds ← d.boundsText s.limit s.offset
  return { columns := s.columns
           conditions := s.conditions
           grouping := s.grouping
           order := s.order
           bounds := bounds }

/-- The stages that a value spells: the elements of a value that counts as true, none otherwise. -/
def stages (pipeline : Value) : Except Fault (List Stage) :=
  if pipeline.isTruthy then
    match pipeline.elements? with
    | some items => .ok (items.map Stage.ofValue)
    | none => .error pipeline.notIterable
  else .ok []

end Pipeline

/-- The statement of a pipeline over a table. -/
def compilePipeline (d : Dialect) (table : String) (pipeline : Value) :
    Except Fault Statement := do
  let state ← Pipeline.State.start.run d (← Pipeline.stages pipeline)
  return (← state.selection d).statement table

end DocTable
