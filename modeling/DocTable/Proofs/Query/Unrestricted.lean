/-
# Writes to every row

A write takes every row of its table exactly if it has no condition, and it has none exactly if
every entry of its filter vanishes. An entry vanishes under a path that is no text; under a text
only a document of comparisons can vanish, each of which has an unknown name or asks for membership
in an empty collection. So a filter with an entry that compares with a pattern or with nothing, or
with a mapping that is no document of comparisons, never becomes a write to every row.

A write to one row has the same condition, and a limit of one: behind the condition, or behind that
of a selection which gives the identity of the row.
-/
import DocTable.Proofs.Query.Clause
import DocTable.Proofs.Query.ClosedWrites
import DocTable.Proofs.Query.Compilable
import DocTable.Proofs.Statement.Words

namespace DocTable

open Lexing (Closed HasWord Lacks)

/-! ## Comparisons that make no clause -/

/-- The collections with nothing in them. -/
def Value.emptyCollections : List Value := [list [], tuple [], set [], map []]

lemma memberOperands_eq_nil_iff {operand : Value} :
    memberOperands operand = [] ↔ operand ∈ Value.emptyCollections := by
  cases operand <;> simp [memberOperands, Value.elements?, Value.emptyCollections]

/-- A comparison that makes no clause, by its name and its operand: the name, less the dollar signs
in front and in lower case, is none of those known, or it asks for membership and the operand is an
empty collection. -/
inductive Operator.Idle : Value → Value → Prop
  | unknown {name : String} (operand : Value) (hmarked : name.toList.head? = some '$')
      (h : word name ∉ names.map Prod.fst) : Idle (.text name) operand
  | nowhere {name : String} {operand : Value} (hmarked : name.toList.head? = some '$')
      (h : word name = "in") (hempty : operand ∈ Value.emptyCollections) : Idle (.text name) operand

namespace Operator

lemma isMarkedName_text (name : String) :
    isMarkedName (.text name) = true ↔ name.toList.head? = some '$' := by
  rw [isMarkedName, beq_iff_eq]

lemma isDocument_map_iff {entries : Entries} :
    isDocument (.map entries) = true ↔
      entries ≠ [] ∧ ∀ e ∈ entries, isMarkedName e.1 = true := by
  simp [isDocument]

lemma lookup_names_eq_none_iff {s : String} :
    names.lookup s = none ↔ s ∉ names.map Prod.fst := by
  rw [List.lookup_eq_none_iff, List.mem_map, not_exists]
  refine forall_congr' fun entry => ?_
  rw [not_and, bne_iff_ne, ne_comm]

lemma lookup_names_eq_memberOf_iff {s : String} :
    names.lookup s = some .memberOf ↔ s = "in" := by
  constructor
  · intro h
    obtain ⟨before, after, hnames, -⟩ := List.lookup_eq_some_iff.1 h
    have hmem : (s, memberOf) ∈ names := hnames ▸ by simp
    simpa [names] using hmem
  · rintro rfl
    rfl

/-- Marked names make no clause exactly if they are idle. -/
lemma idle_iff {name operand : Value} (hmarked : isMarkedName name = true) :
    Idle name operand ↔
      resolve? name = none ∨ resolve? name = some .memberOf ∧ memberOperands operand = [] := by
  cases name with
  | text name =>
    rw [isMarkedName_text] at hmarked
    rw [resolve?, lookup_names_eq_none_iff, lookup_names_eq_memberOf_iff, memberOperands_eq_nil_iff]
    constructor
    · rintro (⟨-, -, h⟩ | ⟨-, h, hempty⟩)
      · exact .inl h
      · exact .inr ⟨h, hempty⟩
    · rintro (h | ⟨h, hempty⟩)
      · exact .unknown operand hmarked h
      · exact .nowhere hmarked h hempty
  | _ => cases hmarked

lemma Idle.isMarkedName {name operand : Value} (h : Idle name operand) :
    isMarkedName name = true := by
  cases h with
  | unknown _ hmarked _ | nowhere hmarked _ _ => exact (isMarkedName_text _).2 hmarked

end Operator

namespace Clause

lemma ofComparison?_eq_none_iff {path : String} {op : Operator} {operand : Value} :
    ofComparison? path op operand = .ok none ↔ op = .memberOf ∧ memberOperands operand = [] := by
  unfold ofComparison?
  split
  · split_ifs with hempty
    · simp [List.isEmpty_iff.1 hempty]
    · have hne : memberOperands operand ≠ [] := fun h => hempty (List.isEmpty_iff.2 h)
      simp [hne, bind_eq_ok_iff]
  · simp
  · simp
  · simp
  · rename_i hmember _ _ _
    have hne : op ≠ .memberOf := hmember
    simp [hne, bind_eq_ok_iff]

/-- A condition contributes no clause under a path that is no text, and where the comparison is
unknown or asks for membership in nothing. -/
lemma of?_eq_none_iff {path operator operand : Value} :
    of? path operator operand = .ok none ↔
      path.isText = false ∨ Operator.resolve? operator = none ∨
        Operator.resolve? operator = some .memberOf ∧ memberOperands operand = [] := by
  cases path with
  | text path =>
    unfold of?
    cases Operator.resolve? operator with
    | none => simp
    | some op =>
      rw [ofComparison?_eq_none_iff]
      simp [Value.isText]
  | _ => simp [of?, Value.isText]

/-- Conditions have no clauses exactly if none of them contributes one. -/
lemma eq_nil_iff {conditions : List (Value × Value × Value)} {clauses : List Clause}
    (h : allOf conditions = .ok clauses) :
    clauses = [] ↔ ∀ c ∈ conditions, of? c.1 c.2.1 c.2.2 = .ok none := by
  induction conditions generalizing clauses with
  | nil =>
    cases h
    simp
  | cons condition conditions ih =>
    obtain ⟨path, operator, operand⟩ := condition
    simp only [allOf, bind_eq_ok_iff, pure_eq_ok, Except.ok.injEq] at h
    obtain ⟨clause, hclause, rest, hrest, rfl⟩ := h
    rw [List.forall_mem_cons, ← ih hrest, hclause]
    cases clause <;> simp

/-- The statement of a clause is not empty. -/
lemma text_compile_ne (d : Dialect) (c : Clause) : (c.compile d).text ≠ "" := by
  intro h
  have hhead : c.test.head = "" := by
    simp only [compile, String.append_eq_empty_iff] at h
    exact h.2.1
  cases htest : c.test <;> simp [htest, Test.head] at hhead

end Clause

lemma Statement.text_join_ne (separator : String) {first : Statement} (rest : List Statement)
    (h : first.text ≠ "") : (join separator (first :: rest)).text ≠ "" := by
  cases rest with
  | nil => simpa [join] using h
  | cons second rest => simp [join, String.intercalate_cons_cons, h]

/-! ## Entries that vanish -/

/-- An entry of a filter that restricts nothing. -/
inductive Vanishes : Value → Value → Prop
  | path {path : Value} (value : Value) (h : path.isText = false) : Vanishes path value
  | comparisons (path : Value) {entries : Entries} (hne : entries ≠ [])
      (h : ∀ e ∈ entries, Operator.Idle e.1 e.2) : Vanishes path (.map entries)

lemma isDocument_of_idle {entries : Entries} (hne : entries ≠ [])
    (h : ∀ e ∈ entries, Operator.Idle e.1 e.2) : Operator.isDocument (.map entries) = true :=
  Operator.isDocument_map_iff.2 ⟨hne, fun e he => (h e he).isMarkedName⟩

/-- An entry vanishes exactly if none of its conditions contributes a clause. -/
lemma vanishes_iff {path value : Value} :
    Vanishes path value ↔ ∀ c ∈ comparisonsOf value, Clause.of? path c.1 c.2 = .ok none := by
  simp only [Clause.of?_eq_none_iff]
  cases hpath : path.isText with
  | false => simp [Vanishes.path value hpath]
  | true =>
    simp only [Bool.true_eq_false, false_or]
    cases hdocument : Operator.isDocument value with
    | false =>
      rw [comparisonsOf_of_not_isDocument hdocument, List.forall_mem_singleton]
      constructor
      · -- idle comparisons make a document
        intro h
        cases h with
        | path _ hpath' =>
          rw [hpath] at hpath'
          cases hpath'
        | comparisons hne h =>
          rw [isDocument_of_idle hne h] at hdocument
          cases hdocument
      · -- equality is known, and asks for no membership
        rintro (h | ⟨h, -⟩) <;> cases h
    | true =>
      cases value with
      | map entries =>
        obtain ⟨hne, hmarked⟩ := Operator.isDocument_map_iff.1 hdocument
        rw [comparisonsOf_of_isDocument hdocument]
        constructor
        · intro h
          cases h with
          | path _ hpath' =>
            rw [hpath] at hpath'
            cases hpath'
          | comparisons _ h => exact fun e he => (Operator.idle_iff (hmarked e he)).1 (h e he)
        · exact fun h => .comparisons path hne fun e he =>
            (Operator.idle_iff (hmarked e he)).2 (h e he)
      | _ => cases hdocument

/-- The condition of a filter is empty exactly if every entry of it vanishes. -/
lemma text_eq_empty_iff {d : Dialect} {entries : Entries} {condition : Statement}
    (h : compileWhere d (.map entries) = .ok condition) :
    condition.text = "" ↔ ∀ e ∈ entries, Vanishes e.1 e.2 := by
  simp only [compileWhere, bind_eq_ok_iff, pure_eq_ok, Except.ok.injEq] at h
  obtain ⟨statements, hstatements, rfl⟩ := h
  rw [compileFilter, Clause.compileConditions_eq, map_eq_ok_iff] at hstatements
  obtain ⟨clauses, hclauses, rfl⟩ := hstatements
  have hnil : ((conjoin (clauses.map (Clause.compile d))).getD .empty).text = "" ↔
      clauses = [] := by
    cases clauses with
    | nil => simp [conjoin, Statement.empty, Statement.plain]
    | cons c cs =>
      have hne := Statement.text_join_ne " AND " (cs.map (Clause.compile d)) (c.text_compile_ne d)
      simpa [conjoin] using hne
  rw [hnil, Clause.eq_nil_iff hclauses]
  simp only [vanishes_iff]
  constructor
  · intro hnone e he c hc
    exact hnone (e.1, c.1, c.2) (mem_conditionsOf_iff.2 ⟨e.2, he, hc⟩)
  · rintro hnone ⟨path, operator, operand⟩ hcondition
    obtain ⟨value, hentry, hc⟩ := mem_conditionsOf_iff.1 hcondition
    exact hnone (path, value) hentry (operator, operand) hc

/-- Values that always restrict under a text: what is no mapping, an empty mapping, one with a key
that is no marked name, and one that compares by a known name with nothing or with a pattern. -/
inductive Value.Restricts : Value → Prop
  | plain {v : Value} (h : v.isMap = false) : Restricts v
  | empty : Restricts (map [])
  | unmarked {entries : Entries} {e : Value × Value} (he : e ∈ entries)
      (h : Operator.isMarkedName e.1 = false) : Restricts (map entries)
  | compares {entries : Entries} {name operand : Value} {op : Operator}
      (he : (name, operand) ∈ entries) (hop : Operator.resolve? name = some op)
      (h : operand = null ∨ ∃ source, operand = pattern source) : Restricts (map entries)

lemma not_vanishes_of_restricts {path : String} {value : Value} (h : value.Restricts) :
    ¬Vanishes (.text path) value := by
  intro hvanishes
  cases hvanishes with
  | path _ hpath => cases hpath
  | comparisons hne hidle =>
    cases h with
    | plain h => cases h
    | empty => exact hne rfl
    | unmarked he h =>
      rw [(hidle _ he).isMarkedName] at h
      cases h
    | compares he hop h =>
      have hclause := (Operator.idle_iff (hidle _ he).isMarkedName).1 (hidle _ he)
      rw [hop] at hclause
      obtain hnone | ⟨-, hnone⟩ := hclause
      · cases hnone
      · rcases h with rfl | ⟨source, rfl⟩ <;> cases hnone

/-! ## Writes -/

section Writes

variable {d : Dialect} {table : String}

lemma closed_where : Closed " WHERE " 0 := Lexing.closed_of_unmarked (by decide)

/-- The clause of a condition is told by its word, which is in no name of the write. -/
lemma hasWord_whereClause_iff {head condition : String} {n : Nat} (hhead : Lacks 'W' head n)
    (escapes : Bool) :
    HasWord escapes " WHERE " (head ++ Dialect.whereClause condition) ↔ condition ≠ "" := by
  rw [Dialect.whereClause]
  split_ifs with hempty
  · rw [String.isEmpty_iff] at hempty
    rw [String.append_empty]
    simpa [hempty] using hhead.not_hasWord (by decide) escapes
  · rw [String.isEmpty_iff] at hempty
    have hword := closed_where.hasWord_append_left (b := condition)
      (Lexing.hasWord_self (by decide) escapes)
    simpa [hempty] using hhead.closed.hasWord_append_right hword

lemma append_whereClause_eq_iff {head condition : String} :
    head ++ Dialect.whereClause condition = head ↔ condition = "" := by
  rw [Dialect.whereClause, String.append_eq_left_iff]
  split_ifs with hempty
  · simpa using hempty
  · simpa using hempty

/-- The text of a write to one row of those to which a tail restricts it: a limit behind the tail,
or behind that of a selection of identities. -/
def Dialect.limitedToOne (d : Dialect) (table head tail : String) : String :=
  match d.flavour with
  | .sqlite =>
    head ++ (" WHERE " ++ quote "id" ++ " IN (SELECT " ++ quote "id" ++ " FROM " ++ quote table
      ++ tail ++ " LIMIT 1)")
  | _ => head ++ (tail ++ " LIMIT 1")

lemma limitedToOne_eq (head condition : String) :
    head ++ d.singleRow table condition =
      d.limitedToOne table head (Dialect.whereClause condition) := by
  unfold Dialect.singleRow Dialect.limitedToOne
  cases d.flavour <;> rfl

/-- The limit stands outside of all names and literals. -/
lemma hasWord_limitedToOne {head tail : String} {m n : Nat} (hhead : Closed head m)
    (htail : Closed tail n) (escapes : Bool) :
    HasWord escapes " LIMIT 1" (d.limitedToOne table head tail) := by
  have hlimit : HasWord escapes " LIMIT 1" " LIMIT 1" := Lexing.hasWord_self (by decide) escapes
  have hselection : Closed (" WHERE " ++ Dialect.quote "id" ++ " IN (SELECT " ++ Dialect.quote "id"
      ++ " FROM " ++ Dialect.quote table) 0 :=
    ((((closed_where.append_zero (Lexing.closed_quote "id")).append_zero
      (Lexing.closed_of_unmarked (by decide))).append_zero (Lexing.closed_quote "id")).append_zero
        (Lexing.closed_of_unmarked (by decide))).append_zero (Lexing.closed_quote table)
  have hend : HasWord escapes " LIMIT 1" " LIMIT 1)" :=
    (Lexing.closed_of_unmarked (by decide) : Closed " LIMIT 1" 0).hasWord_append_left
      (b := ")") hlimit
  rw [Dialect.limitedToOne]
  split
  · exact hhead.hasWord_append_right ((hselection.append_zero htail).hasWord_append_right hend)
  · exact hhead.hasWord_append_right (htail.hasWord_append_right hlimit)

/-- Two writes that a filter restricts, one to all of its rows and one to one of them. -/
structure RestrictedBy (d : Dialect) (table head : String) (entries : Entries)
    (all one : Statement) : Prop where
  /-- The first is a write to every row exactly if every entry of the filter vanishes. -/
  bare_iff : all.text = head ↔ ∀ e ∈ entries, Vanishes e.1 e.2
  /-- That is, it has no condition exactly then. -/
  where_iff : ∀ escapes, ¬HasWord escapes " WHERE " all.text ↔ ∀ e ∈ entries, Vanishes e.1 e.2
  /-- It has one if there is an entry that always restricts. -/
  of_restricts : ∀ path value, (.text path, value) ∈ entries → value.Restricts →
    ∀ escapes, HasWord escapes " WHERE " all.text
  /-- The second has the tail of the first under a limit of one. -/
  limited : ∃ tail, all.text = head ++ tail ∧ one.text = d.limitedToOne table head tail
  /-- The limit is a word of the second. -/
  hasWord_limit : ∀ escapes, HasWord escapes " LIMIT 1" one.text
  /-- Both have the same parameters. -/
  params : one.params = all.params

lemma restrictedBy {head : String} {n : Nat} (hhead : Lacks 'W' head n) {entries : Entries}
    {condition : Statement} (h : compileWhere d (.map entries) = .ok condition)
    (params : List Value) :
    RestrictedBy d table head entries ⟨restrict d table head condition.text false, params⟩
      ⟨restrict d table head condition.text true, params⟩ := by
  have hwhere : ∀ escapes,
      ¬HasWord escapes " WHERE " (restrict d table head condition.text false) ↔
        ∀ e ∈ entries, Vanishes e.1 e.2 := by
    intro escapes
    rw [← text_eq_empty_iff h]
    exact (not_congr (hasWord_whereClause_iff hhead escapes)).trans not_not
  have hone : restrict d table head condition.text true =
      d.limitedToOne table head (Dialect.whereClause condition.text) :=
    limitedToOne_eq head condition.text
  have hbare : restrict d table head condition.text false = head ↔
      ∀ e ∈ entries, Vanishes e.1 e.2 := by
    rw [← text_eq_empty_iff h]
    exact append_whereClause_eq_iff
  refine ⟨hbare, hwhere, fun path value hentry hrestricts escapes => ?_, ⟨_, rfl, hone⟩,
    fun escapes => ?_, rfl⟩
  · by_contra hnot
    exact not_vanishes_of_restricts hrestricts ((hwhere escapes).1 hnot _ hentry)
  · rw [hone]
    exact hasWord_limitedToOne hhead.closed (closed_whereClause (closed_compileWhere h)) escapes

/-! ## Updates and deletions -/

lemma lacks_delete (table : String) : Lacks 'W' ("DELETE FROM " ++ Dialect.quote table) 0 := by
  have hdelete : Lacks 'W' "DELETE FROM " 0 := ⟨Lexing.closed_of_unmarked (by decide), by decide⟩
  exact hdelete.append_zero (Lexing.lacks_quote (by decide) table)

lemma lacks_assignmentPart {pairs : List (Value × Value)} {assignments : String}
    (h : quotedNames pairs " = ?" = .ok assignments) (table : String) :
    ∃ n, Lacks 'W' (assignmentPart table assignments) n := by
  simp only [quotedNames, bind_eq_ok_iff, pure_eq_ok, Except.ok.injEq] at h
  obtain ⟨names, hnames, rfl⟩ := h
  have hupdate : Lacks 'W' "UPDATE " 0 := ⟨Lexing.closed_of_unmarked (by decide), by decide⟩
  have hset : Lacks 'W' " SET " 0 := ⟨Lexing.closed_of_unmarked (by decide), by decide⟩
  have hcomma : Lacks 'W' ", " 0 := ⟨Lexing.closed_of_unmarked (by decide), by decide⟩
  have hmark : Lacks 'W' " = ?" 1 := ⟨by intro escapes; cases escapes <;> rfl, by decide⟩
  have hall : ∀ f ∈ names.map fun name => name ++ " = ?", Lacks 'W' f 1 := by
    refine List.forall_mem_map.2 fun name hname => ?_
    obtain ⟨pair, -, hpair⟩ := exists_of_mem_mapM hnames hname
    obtain ⟨column, rfl⟩ := exists_quote_of_quoteValue hpair
    exact (Lexing.lacks_quote (by decide) column).append_zero hmark
  exact ⟨_, ((hupdate.append_zero (Lexing.lacks_quote (by decide) table)).append_zero
    hset).append_zero (Lexing.lacks_intercalate hcomma hall)⟩

lemma succeeds_quotedNames_iff {pairs : List (Value × Value)} {after : String} :
    Succeeds (quotedNames pairs after) ↔ ∀ pair ∈ pairs, pair.1.isText = true := by
  simp only [← Dialect.succeeds_quoteValue_iff, ← succeeds_mapM_iff]
  exact succeeds_bind_ok_iff

/-- For every filter that compiles there are an update and a deletion of all its rows, and of one of
them. Those of all rows have no condition exactly if every entry of the filter vanishes, which none
does that always restricts; those of one row have a limit of one. -/
theorem writes_restricted (d : Dialect) (table : String) {pairs : List (Value × Value)}
    (hpairs : ∀ pair ∈ pairs, pair.1.isText = true) {entries : Entries}
    (hcompiles : Succeeds (compileFilter d (.map entries))) :
    (∃ assignments all one, quotedNames pairs " = ?" = .ok assignments ∧
      compileUpdate d table pairs (.map entries) false = .ok all ∧
      compileUpdate d table pairs (.map entries) true = .ok one ∧
      RestrictedBy d table (assignmentPart table assignments) entries all one) ∧
    ∃ all one, compileDelete d table (.map entries) false = .ok all ∧
      compileDelete d table (.map entries) true = .ok one ∧
      RestrictedBy d table ("DELETE FROM " ++ Dialect.quote table) entries all one := by
  obtain ⟨assignments, hassignments⟩ : Succeeds (quotedNames pairs " = ?") :=
    succeeds_quotedNames_iff.2 hpairs
  obtain ⟨condition, hcondition⟩ : Succeeds (compileWhere d (.map entries)) :=
    succeeds_bind_ok_iff.2 hcompiles
  obtain ⟨n, hhead⟩ := lacks_assignmentPart hassignments table
  have hupdate : ∀ single, compileUpdate d table pairs (.map entries) single =
      .ok ⟨restrict d table (assignmentPart table assignments) condition.text single,
        pairs.map Prod.snd ++ condition.params⟩ := by
    intro single
    rw [compileUpdate, hassignments, ok_bind, hcondition]
    rfl
  have hdelete : ∀ single, compileDelete d table (.map entries) single =
      .ok ⟨restrict d table ("DELETE FROM " ++ Dialect.quote table) condition.text single,
        condition.params⟩ := by
    intro single
    rw [compileDelete, hcondition]
    rfl
  exact ⟨⟨assignments, _, _, hassignments, hupdate false, hupdate true,
    restrictedBy hhead hcondition _⟩,
    ⟨_, _, hdelete false, hdelete true, restrictedBy (lacks_delete table) hcondition _⟩⟩

/-- The filter `{1: "x", "a": {"$near": 5, "$IN": ()}}` compiles, and takes every row of a table
that is named like a clause. -/
theorem writes_restricted_vanishing :
    (∀ pair ∈ [(Value.text " WHERE ", Value.null)], pair.1.isText = true) ∧
    Succeeds (compileFilter ⟨.sqlite, 255⟩ (.map [(.int 1, .text "x"),
      (.text "a", .map [(.text "$near", .int 5), (.text "$IN", .tuple [])])])) ∧
    ∃ all, compileDelete ⟨.sqlite, 255⟩ " WHERE " (.map [(.int 1, .text "x"),
        (.text "a", .map [(.text "$near", .int 5), (.text "$IN", .tuple [])])]) false = .ok all ∧
      ¬HasWord false " WHERE " all.text := by
  have hpairs : ∀ pair ∈ [(Value.text " WHERE ", Value.null)], pair.1.isText = true := by decide
  have hcompiles : Succeeds (compileFilter ⟨.sqlite, 255⟩ (.map [(.int 1, .text "x"),
      (.text "a", .map [(.text "$near", .int 5), (.text "$IN", .tuple [])])])) := ⟨[], rfl⟩
  obtain ⟨-, all, one, hall, -, hrestricted⟩ :=
    writes_restricted ⟨.sqlite, 255⟩ " WHERE " hpairs hcompiles
  refine ⟨hpairs, hcompiles, all, hall, (hrestricted.where_iff false).2 ?_⟩
  refine List.forall_mem_cons.2 ⟨.path _ rfl, List.forall_mem_singleton.2 ?_⟩
  refine .comparisons _ (by simp) (List.forall_mem_cons.2 ⟨?_, List.forall_mem_singleton.2 ?_⟩)
  · exact .unknown _ rfl (by decide)
  · exact .nowhere rfl (by decide) (by simp [Value.emptyCollections])

end Writes
end DocTable
