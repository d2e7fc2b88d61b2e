/-
# Statements gathered part by part

Every statement that is compiled is closed and has as many placeholders as parameters: no name of a
table, a column, a label or a step of a path can close a mark that it did not open, or pass for a
placeholder.

A query and a pipeline gather their parts call by call and stage by stage. What every call and every
stage keeps is that all the parts gathered so far are closed.
-/
import DocTable.Proofs.Query.ClosedWrites
import DocTable.Query.Builder
import DocTable.Query.Pipeline

namespace DocTable

open Lexing

/-! ## Bounds -/

namespace Dialect

lemma closed_of_boundText? {n : Option Int} {t : Option String} (h : boundText? n = .ok t) :
    ∀ s ∈ t, Closed s 0 := by
  intro s hs
  cases n with
  | none => cases h; cases hs
  | some n =>
    rw [boundText?, map_eq_ok_iff] at h
    obtain ⟨text, htext, rfl⟩ := h
    rw [boundText] at htext
    split_ifs at htext
    cases htext
    cases hs
    exact closed_int n

lemma closed_boundsOf (d : Dialect) {limit offset : Option String} (hl : ∀ s ∈ limit, Closed s 0)
    (ho : ∀ s ∈ offset, Closed s 0) : Closed (d.boundsOf limit offset) 0 := by
  have hlimit : Closed "LIMIT " 0 := closed_of_unmarked (by decide)
  have hoffset : Closed "OFFSET " 0 := closed_of_unmarked (by decide)
  have hunbounded : Closed d.unboundedLimit 0 := by
    rw [unboundedLimit]
    split <;> exact closed_of_unmarked (by decide)
  refine closed_intercalate_zero (closed_of_unmarked (by decide)) fun f hf => ?_
  rcases List.mem_append.1 hf with hf | hf
  · split at hf
    · rw [List.mem_singleton.1 hf]
      exact hlimit.append_zero (hl _ rfl)
    · rw [List.mem_singleton.1 hf]
      exact hlimit.append_zero hunbounded
    · cases hf
  · split at hf
    · rw [List.mem_singleton.1 hf]
      exact hoffset.append_zero (ho _ rfl)
    · cases hf

lemma closed_boundsText {d : Dialect} {limit offset : Option Int} {text : String}
    (h : d.boundsText limit offset = .ok text) : Closed text 0 := by
  simp only [boundsText, bind_eq_ok_iff, pure_eq_ok, Except.ok.injEq] at h
  obtain ⟨l, hl, o, ho, rfl⟩ := h
  exact closed_boundsOf d (closed_of_boundText? hl) (closed_of_boundText? ho)

lemma closed_limitOffset {d : Dialect} {limit offset : Value} {text : String}
    (h : d.limitOffset limit offset = .ok text) : Closed text 0 := by
  simp only [limitOffset, bind_eq_ok_iff, pure_eq_ok, Except.ok.injEq] at h
  obtain ⟨_, -, l, hl, _, -, o, ho, rfl⟩ := h
  exact closed_boundsOf d (closed_of_boundText? hl) (closed_of_boundText? ho)

end Dialect

/-! ## Selections -/

/-- A selection of which all parts are closed. -/
structure Selection.IsClosed (s : Selection) : Prop where
  columns : ∀ c ∈ s.columns, Closed c 0
  conditions : ∀ c ∈ s.conditions, c.IsClosed
  grouping : ∀ g ∈ s.grouping, Closed g 0
  order : ∀ o ∈ s.order, Closed o 0
  bounds : Closed s.bounds 0

lemma closed_commas {expressions : List String} (h : ∀ e ∈ expressions, Closed e 0) :
    Closed (String.intercalate ", " expressions) 0 :=
  closed_intercalate_zero (closed_of_unmarked (by decide)) h

lemma closed_listClause {keyword : String} (hkeyword : Closed keyword 0)
    {expressions : List String} (h : ∀ e ∈ expressions, Closed e 0) :
    Closed (Selection.listClause keyword expressions) 0 := by
  rw [Selection.listClause]
  split_ifs
  · exact closed_empty
  · exact hkeyword.append_zero (closed_commas h)

/-- The statement of a selection has the placeholders of its condition. -/
lemma Selection.IsClosed.statement {s : Selection} (h : s.IsClosed) (table : String) :
    (s.statement table).IsClosed := by
  have hselect : Closed "SELECT " 0 := closed_of_unmarked (by decide)
  have hfrom : Closed " FROM " 0 := closed_of_unmarked (by decide)
  have hgroup : Closed " GROUP BY " 0 := closed_of_unmarked (by decide)
  have horder : Closed " ORDER BY " 0 := closed_of_unmarked (by decide)
  have hcolumns :
      Closed (if s.columns.isEmpty then "*" else String.intercalate ", " s.columns) 0 := by
    split_ifs
    · exact closed_of_unmarked (by decide)
    · exact closed_commas h.columns
  have hbounds : Closed (if s.bounds.isEmpty then "" else " " ++ s.bounds) 0 := by
    split_ifs
    · exact closed_empty
    · exact Closed.append_zero (closed_of_unmarked (by decide)) h.bounds
  have hsource :=
    ((hselect.append_zero hcolumns).append_zero hfrom).append_zero (closed_quote table)
  have hwhere := closed_whereClause (closed_conjoin h.conditions)
  exact (((hsource.append_zero hwhere).append (closed_listClause hgroup h.grouping)).append
    (closed_listClause horder h.order)).append hbounds

lemma closed_compileSort (d : Dialect) (path direction : Value) :
    Closed (compileSort d path direction) 0 := by
  have hblank : Closed " " 0 := closed_of_unmarked (by decide)
  have hdirection : Closed (sortDirection direction) 0 := by
    rw [sortDirection]
    split_ifs <;> exact closed_of_unmarked (by decide)
  exact ((Path.closed_compile d _).append_zero hblank).append_zero hdirection

/-! ## Queries -/

namespace Query

/-- A query that has been built from a fresh one by calls that did not fail. -/
inductive Reachable : Query → Prop
  | fresh (d : Dialect) (table : Value) : Reachable (fresh d table)
  | call {q next : Query} {c : Call} (h : Reachable q) (happly : q.apply c = .ok next) :
      Reachable next

/-- The conditions that a call adds. -/
def Call.conditions : Call → List (Value × Value × Value)
  | filter (.map entries) _ => conditionsOf (.map entries)
  | filter field value => [(field, .operator .equal, value)]
  | compare op field operand => [(field, .operator op, operand)]
  | _ => []

/-- A call adds the clauses of its conditions. -/
lemma Call.clauses_eq (d : Dialect) (c : Call) :
    c.clauses d = compileConditions d c.conditions := by
  have hsingle : ∀ path operator operand : Value,
      (do return (← compileCondition d path operator operand).toList) =
        compileConditions d [(path, operator, operand)] := by
    intro path operator operand
    cases h : compileCondition d path operator operand <;> simp [compileConditions, h]
  cases c with
  | filter field value =>
    cases field with
    | map entries => rfl
    | _ => exact hsingle ..
  | compare op field operand => exact hsingle ..
  | _ => rfl

/-- The clauses that a call adds are closed. -/
lemma isClosed_clauses {d : Dialect} {c : Call} {clauses : List Statement}
    (h : c.clauses d = .ok clauses) : ∀ s ∈ clauses, s.IsClosed := by
  rw [Call.clauses_eq] at h
  exact closed_compileConditions h

/-- A call adds its clauses to those of the query, whatever else it changes. -/
lemma conditions_apply {q next : Query} {c : Call} (h : q.apply c = .ok next) :
    ∃ clauses, c.clauses q.dialect = .ok clauses ∧ next.conditions = q.conditions ++ clauses := by
  rw [apply, bind_eq_ok_iff] at h
  obtain ⟨clauses, hclauses, h⟩ := h
  refine ⟨clauses, hclauses, ?_⟩
  -- calls that set an order or a bound leave the clauses as they are
  cases c <;> cases h <;> rfl

/-- The clauses gathered by a query are closed, whichever calls have been made. -/
lemma Reachable.isClosed_conditions {q : Query} (h : q.Reachable) :
    ∀ s ∈ q.conditions, s.IsClosed := by
  induction h with
  | fresh d table => simp [Query.fresh]
  | call _ happly ih =>
    obtain ⟨clauses, hclauses, hnext⟩ := conditions_apply happly
    rw [hnext]
    exact List.forall_mem_append.2 ⟨ih, isClosed_clauses hclauses⟩

lemma Reachable.isClosed_compile {q : Query} (h : q.Reachable) {s : Statement}
    (hs : q.compile = .ok s) : s.IsClosed := by
  simp only [compile, bind_eq_ok_iff, pure_eq_ok, Except.ok.injEq] at hs
  obtain ⟨table, -, bounds, hbounds, rfl⟩ := hs
  refine Selection.IsClosed.statement ⟨by simp, h.isClosed_conditions, by simp, ?_,
    Dialect.closed_limitOffset hbounds⟩ table
  exact List.forall_mem_map.2 fun key _ => closed_compileSort q.dialect key.1 key.2

end Query

/-! ## Pipelines -/

namespace Pipeline

variable {d : Dialect}

lemma closed_labelled {path label : Value} {column : String}
    (h : labelled d path label = .ok column) : Closed column 0 := by
  have has : Closed " AS " 0 := closed_of_unmarked (by decide)
  have hpath := Path.closed_compile d path.plain
  simp only [labelled, bind_eq_ok_iff] at h
  obtain ⟨inside, -, h⟩ := h
  split_ifs at h
  · cases h
    exact hpath
  · simp only [bind_eq_ok_iff, pure_eq_ok, Except.ok.injEq] at h
    obtain ⟨name, hname, rfl⟩ := h
    exact (hpath.append_zero has).append_zero (closed_quoteValue hname)

lemma closed_compileProject {spec : Entries} {columns : List String}
    (h : compileProject d spec = .ok columns) : ∀ c ∈ columns, Closed c 0 := by
  induction spec generalizing columns with
  | nil => cases h; simp
  | cons entry spec ih =>
    obtain ⟨name, flag⟩ := entry
    rw [compileProject] at h
    split_ifs at h
    · simp only [bind_eq_ok_iff, pure_eq_ok, Except.ok.injEq] at h
      obtain ⟨column, hcolumn, rest, hrest, rfl⟩ := h
      exact List.forall_mem_cons.2 ⟨closed_labelled hcolumn, ih hrest⟩
    · exact ih h

/-- A grouping of which all parts are closed. -/
structure Grouping.IsClosed (g : Grouping) : Prop where
  columns : ∀ c ∈ g.columns, Closed c 0
  keys : ∀ k ∈ g.keys, Closed k 0

lemma isClosed_compileKeys {references : List (String × Value)} {g : Grouping}
    (h : compileKeys d references = .ok g) : g.IsClosed := by
  induction references generalizing g with
  | nil => cases h; exact ⟨by simp, by simp⟩
  | cons reference references ih =>
    obtain ⟨path, label⟩ := reference
    simp only [compileKeys, bind_eq_ok_iff, pure_eq_ok, Except.ok.injEq] at h
    obtain ⟨column, hcolumn, others, hothers, rfl⟩ := h
    exact ⟨List.forall_mem_cons.2 ⟨closed_labelled hcolumn, (ih hothers).columns⟩,
      List.forall_mem_cons.2 ⟨Path.closed_compile d path, (ih hothers).keys⟩⟩

lemma closed_accumulated? {source : Value} {argument : String}
    (h : accumulated? d source = some argument) : Closed argument 0 := by
  cases source with
  | text reference => cases h; exact Path.closed_compile d _
  | int n => cases h; exact closed_int n
  | float x => cases h; exact Binary64.closed_text x
  | _ => cases h

lemma closed_of_lookup_accumulators {word function : String}
    (h : accumulators.lookup word = some function) : Closed function 0 := by
  have hall : ∀ entry ∈ accumulators, Unmarked entry.2.toList := by decide
  obtain ⟨before, after, hsplit, -⟩ := List.lookup_eq_some_iff.1 h
  exact closed_of_unmarked (hall (word, function) (by rw [hsplit]; simp))

lemma closed_compileAccumulators {label : Value} {spec : Entries} {columns : List String}
    (h : compileAccumulators d label spec = .ok columns) : ∀ c ∈ columns, Closed c 0 := by
  have hopen : Closed "(" 0 := closed_of_unmarked (by decide)
  have has : Closed ") AS " 0 := closed_of_unmarked (by decide)
  induction spec generalizing columns with
  | nil => cases h; simp
  | cons entry spec ih =>
    obtain ⟨accumulator, source⟩ := entry
    rw [compileAccumulators] at h
    split at h
    · rename_i function argument hfunction hargument
      simp only [bind_eq_ok_iff, pure_eq_ok, Except.ok.injEq] at h
      obtain ⟨name, hname, rest, hrest, rfl⟩ := h
      refine List.forall_mem_cons.2 ⟨?_, ih hrest⟩
      exact ((((closed_of_lookup_accumulators hfunction).append_zero hopen).append_zero
        (closed_accumulated? hargument)).append_zero has).append_zero (closed_quoteValue hname)
    · exact ih h

lemma isClosed_compileGroupEntry {key value : Value} {g : Grouping}
    (h : compileGroupEntry d key value = .ok g) : g.IsClosed := by
  unfold compileGroupEntry at h
  split_ifs at h
  · exact isClosed_compileKeys h
  · split at h
    · simp only [bind_eq_ok_iff, pure_eq_ok, Except.ok.injEq] at h
      obtain ⟨columns, hcolumns, rfl⟩ := h
      exact ⟨closed_compileAccumulators hcolumns, by simp⟩
    · cases h
      exact ⟨by simp, by simp⟩

lemma isClosed_compileGroup {spec : Entries} {g : Grouping} (h : compileGroup d spec = .ok g) :
    g.IsClosed := by
  induction spec generalizing g with
  | nil => cases h; exact ⟨by simp, by simp⟩
  | cons entry spec ih =>
    obtain ⟨key, value⟩ := entry
    simp only [compileGroup, bind_eq_ok_iff, pure_eq_ok, Except.ok.injEq] at h
    obtain ⟨first, hfirst, others, hothers, rfl⟩ := h
    have hentry := isClosed_compileGroupEntry hfirst
    have hrest := ih hothers
    exact ⟨List.forall_mem_append.2 ⟨hentry.columns, hrest.columns⟩,
      List.forall_mem_append.2 ⟨hentry.keys, hrest.keys⟩⟩

/-- What the stages have gathered, all of it closed. -/
structure State.IsClosed (s : State) : Prop where
  columns : ∀ c ∈ s.columns, Closed c 0
  conditions : ∀ c ∈ s.conditions, c.IsClosed
  grouping : ∀ g ∈ s.grouping, Closed g 0
  order : ∀ o ∈ s.order, Closed o 0

lemma State.isClosed_start : State.start.IsClosed :=
  ⟨by simp [start], by simp [start], by simp [start], by simp [start]⟩

/-- A stage keeps what has been gathered closed. -/
lemma State.IsClosed.step {s next : State} (hs : s.IsClosed) {stage : Stage}
    (h : s.step d stage = .ok next) : next.IsClosed := by
  cases stage with
  | filter conditions =>
    simp only [State.step, bind_eq_ok_iff, pure_eq_ok, Except.ok.injEq] at h
    obtain ⟨clauses, hclauses, rfl⟩ := h
    exact { hs with
      conditions := List.forall_mem_append.2 ⟨hs.conditions, closed_compileConditions hclauses⟩ }
  | project spec =>
    simp only [State.step, bind_eq_ok_iff, pure_eq_ok, Except.ok.injEq] at h
    obtain ⟨columns, hcolumns, rfl⟩ := h
    -- a projection that names nothing changes nothing
    split_ifs
    · exact hs
    · exact { hs with columns := closed_compileProject hcolumns }
  | group spec =>
    simp only [State.step, bind_eq_ok_iff, pure_eq_ok, Except.ok.injEq] at h
    obtain ⟨grouping, hgrouping, rfl⟩ := h
    have hclosed := isClosed_compileGroup hgrouping
    split_ifs
    · exact hs
    · exact { hs with columns := hclosed.columns, grouping := hclosed.keys }
  | sort keys =>
    cases h
    have hkeys : ∀ o ∈ keys.map fun key => compileSort d key.1 key.2, Closed o 0 :=
      List.forall_mem_map.2 fun key _ => closed_compileSort d key.1 key.2
    exact { hs with order := List.forall_mem_append.2 ⟨hs.order, hkeys⟩ }
  | limit count =>
    simp only [State.step, bind_eq_ok_iff, pure_eq_ok, Except.ok.injEq] at h
    obtain ⟨bound, -, rfl⟩ := h
    exact { hs with }
  | skip count =>
    simp only [State.step, bind_eq_ok_iff, pure_eq_ok, Except.ok.injEq] at h
    obtain ⟨bound, -, rfl⟩ := h
    exact { hs with }
  | unknown =>
    cases h
    exact hs

lemma State.IsClosed.run {s final : State} (hs : s.IsClosed) {stages : List Stage}
    (h : s.run d stages = .ok final) : final.IsClosed := by
  induction stages generalizing s with
  | nil => cases h; exact hs
  | cons stage stages ih =>
    rw [State.run, bind_eq_ok_iff] at h
    obtain ⟨next, hnext, h⟩ := h
    exact ih (hs.step hnext) h

end Pipeline

lemma isClosed_compilePipeline {d : Dialect} {table : String} {pipeline : Value} {s : Statement}
    (h : compilePipeline d table pipeline = .ok s) : s.IsClosed := by
  simp only [compilePipeline, Pipeline.State.selection, bind_eq_ok_iff, pure_eq_ok,
    Except.ok.injEq] at h
  obtain ⟨stages, -, state, hstate, selection, ⟨bounds, hbounds, rfl⟩, rfl⟩ := h
  have hclosed := Pipeline.State.isClosed_start.run hstate
  exact Selection.IsClosed.statement ⟨hclosed.columns, hclosed.conditions, hclosed.grouping,
    hclosed.order, Dialect.closed_boundsText hbounds⟩ table

/-! ## All statements -/

/-- Every statement that is compiled is scanned from the plain state to the plain state, whatever a
backslash in a literal is, and meets as many placeholders there as it has parameters. In an update,
the part up to the assignments has one for each pair. -/
theorem isClosed_compiled (d : Dialect) (table : String) (pairs : List (Value × Value))
    (conditions pipeline : Value) (single : Bool) :
    (∀ s, compileInsert d table pairs = .ok s → s.IsClosed) ∧
    (∀ s, compileUpdate d table pairs conditions single = .ok s →
      s.IsClosed ∧ SplitsAfterAssignments table pairs s) ∧
    (∀ s, compileDelete d table conditions single = .ok s → s.IsClosed) ∧
    (∀ q : Query, q.Reachable → ∀ s, q.compile = .ok s → s.IsClosed) ∧
    (∀ s, compilePipeline d table pipeline = .ok s → s.IsClosed) := by
  refine ⟨fun s h => isClosed_compileInsert h, fun s h => ?_, fun s h => isClosed_compileDelete h,
    fun q hq s h => hq.isClosed_compile h, fun s h => isClosed_compilePipeline h⟩
  have hsplits := splitsAfterAssignments_compileUpdate h
  exact ⟨isClosed_of_splits hsplits, hsplits⟩

/-- An update of a table, a column and a path whose names hold marks, placeholders and
backslashes. -/
theorem isClosed_markedUpdate :
    ∃ s, compileUpdate ⟨.sqlite, 255⟩ "t`?" [(.text "a'?", .int 1)]
        (.map [(.text "p.'\\\"?", .int 2)]) true = .ok s ∧
      s.params = [.int 1, .int 2] ∧ s.IsClosed := by
  refine ⟨_, rfl, rfl, ?_⟩
  exact ((isClosed_compiled ⟨.sqlite, 255⟩ "t`?" [(.text "a'?", .int 1)]
    (.map [(.text "p.'\\\"?", .int 2)]) .null true).2.1 _ rfl).1

end DocTable
