/-
# Clauses with their placeholders

Whatever the names in them are, the expressions of paths are closed, and a clause is closed with as
many placeholders as it has parameters. A JSON path stands in a literal: its backslashes take a
backslash or a quotation mark with them, and never the mark that would close the literal.
-/
import DocTable.Proofs.Query.Path
import DocTable.Proofs.Statement.Lexing
import DocTable.Proofs.Steps
import DocTable.Query.Condition

namespace DocTable

open Lexing

/-- A statement with as many placeholders in its plain text as it has parameters. -/
def Statement.IsClosed (s : Statement) : Prop := Closed s.text s.params.length

/-! ## Paths -/

namespace Path

lemma sheltered_keyChar (c : Char) : Sheltered (keyChar c) := by
  rw [keyChar]
  split_ifs with hslash hquote
  · exact sheltered_escape (by decide)
  · exact sheltered_escape (by decide)
  · exact sheltered_singleton hslash

/-- A step into a JSON value can stand between apostrophes. -/
lemma sheltered_step (segment : List Char) : Sheltered (step segment) := by
  rw [step]
  split_ifs with hindex hidentifier
  · have hsegment := Sheltered.of_forall (ne_of_isIndex hindex backslash (by decide))
    exact ((sheltered_singleton (c := '[') (by decide)).append hsegment).append
      (sheltered_singleton (by decide))
  · have hsegment := Sheltered.of_forall
      (ne_of_isIdentifier hidentifier backslash (by decide) (by decide))
    exact (sheltered_singleton (c := '.') (by decide)).append hsegment
  · have hsegment := Sheltered.flatMap fun c (_ : c ∈ segment) => sheltered_keyChar c
    have hopen := (sheltered_singleton (c := '.') (by decide)).append
      (sheltered_singleton (c := '\x22') (by decide))
    exact (hopen.append hsegment).append (sheltered_singleton (by decide))

lemma sheltered_jsonPath (segments : List (List Char)) : Sheltered (jsonPath segments).toList := by
  have hroot : Sheltered ['$'] := sheltered_singleton (by decide)
  rw [jsonPath, String.toList_ofList]
  exact hroot.append (Sheltered.flatMap fun segment _ => sheltered_step segment)

lemma closed_jsonExtract (d : Dialect) (column : String) (segments : List (List Char)) :
    Closed (d.jsonExtract column (jsonPath segments)) 0 := by
  have hopen : Closed "(" 0 := closed_of_unmarked (by decide)
  have hcomma : Closed ", " 0 := closed_of_unmarked (by decide)
  have hclose : Closed ")" 0 := closed_of_unmarked (by decide)
  have hpath := closed_literal (sheltered_jsonPath segments)
  have hcall : ∀ name : String, Closed name 0 → Closed (name ++ "(" ++ Dialect.quote column ++ ", "
      ++ Dialect.literal (jsonPath segments) ++ ")") 0 := by
    intro name hname
    exact ((((hname.append_zero hopen).append_zero (closed_quote column)).append_zero
      hcomma).append_zero hpath).append_zero hclose
  -- the dialects differ in the name of the function only
  rw [Dialect.jsonExtract]
  split
  · exact hcall "json_extract" (closed_of_unmarked (by decide))
  · exact hcall "JSON_EXTRACT" (closed_of_unmarked (by decide))

/-- The expression of a path is closed, whatever its segments are. -/
lemma closed_compile (d : Dialect) (path : String) : Closed (compile d path) 0 := by
  rw [compile]
  split
  · exact closed_jsonExtract d _ _
  · exact closed_quote path

end Path

/-! ## Conditions -/

lemma closed_placeholders (count : Nat) : Closed (Statement.placeholders count) count := by
  have hcomma : Closed ", " 0 := closed_of_unmarked (by decide)
  have hmark : Closed "?" 1 := by intro escapes; cases escapes <;> rfl
  have hall : ∀ f ∈ List.replicate count ("?", 1), Closed f.1 f.2 := by
    intro f hf
    rw [(List.mem_replicate.1 hf).2]
    exact hmark
  have hclosed := closed_intercalate hcomma hall
  simpa [Statement.placeholders] using hclosed

lemma length_of_mapM_encode {operands params : List Value}
    (h : operands.mapM Codec.encodeValue = .ok params) : params.length = operands.length :=
  (mapM_eq_ok_iff.1 h).length_eq.symm

lemma closed_symbol (op : Operator) : Closed op.symbol 0 := by
  cases op <;> exact closed_of_unmarked (by decide)

section Clauses

variable {expression : String} (hexpression : Closed expression 0)
include hexpression

lemma closed_binary (op : Operator) (param : Value) :
    Statement.IsClosed ⟨expression ++ " " ++ op.symbol ++ " ?", [param]⟩ := by
  have hblank : Closed " " 0 := closed_of_unmarked (by decide)
  have hmark : Closed " ?" 1 := by intro escapes; cases escapes <;> rfl
  exact ((hexpression.append_zero hblank).append_zero (closed_symbol op)).append_zero hmark

lemma closed_membershipClause {operands : List Value} {s : Statement}
    (h : membershipClause expression operands = .ok (some s)) : s.IsClosed := by
  rw [membershipClause] at h
  split_ifs at h
  · cases h
  simp only [bind_eq_ok_iff, pure_eq_ok, Except.ok.injEq, Option.some.injEq] at h
  obtain ⟨params, hparams, rfl⟩ := h
  have hopen : Closed " IN (" 0 := closed_of_unmarked (by decide)
  have hclose : Closed ")" 0 := closed_of_unmarked (by decide)
  rw [Statement.IsClosed, length_of_mapM_encode hparams]
  exact ((hexpression.append_zero hopen).append_zero (closed_placeholders _)).append hclose

/-- The clause of a comparison is closed. -/
lemma closed_comparisonClause {op : Operator} {operand : Value} {s : Statement}
    (h : comparisonClause expression op operand = .ok (some s)) : s.IsClosed := by
  have hnull : ∀ text : String, Closed text 0 →
      Statement.IsClosed (.plain (expression ++ text)) := fun _ htext =>
    hexpression.append_zero htext
  unfold comparisonClause at h
  split at h
  · exact closed_membershipClause hexpression h
  · obtain rfl := Option.some.inj (Except.ok.inj h)
    exact hnull " IS NULL" (closed_of_unmarked (by decide))
  · obtain rfl := Option.some.inj (Except.ok.inj h)
    exact hnull " IS NOT NULL" (closed_of_unmarked (by decide))
  · obtain rfl := Option.some.inj (Except.ok.inj h)
    exact closed_binary hexpression .matching _
  · simp only [bind_eq_ok_iff, pure_eq_ok, Except.ok.injEq, Option.some.injEq] at h
    obtain ⟨param, -, rfl⟩ := h
    exact closed_binary hexpression op param

end Clauses

lemma closed_compileCondition {d : Dialect} {path operator operand : Value} {s : Statement}
    (h : compileCondition d path operator operand = .ok (some s)) : s.IsClosed := by
  unfold compileCondition at h
  split at h
  · exact closed_comparisonClause (Path.closed_compile d _) h
  · cases h

/-- All clauses of conditions are closed. -/
lemma closed_compileConditions {d : Dialect} {conditions : List (Value × Value × Value)}
    {clauses : List Statement} (h : compileConditions d conditions = .ok clauses) :
    ∀ s ∈ clauses, s.IsClosed := by
  induction conditions generalizing clauses with
  | nil => cases h; simp
  | cons condition conditions ih =>
    obtain ⟨path, operator, operand⟩ := condition
    simp only [compileConditions, bind_eq_ok_iff, pure_eq_ok, Except.ok.injEq] at h
    obtain ⟨clause, hclause, rest, hrest, rfl⟩ := h
    intro s hs
    rcases List.mem_append.1 hs with hs | hs
    · rw [Option.mem_toList] at hs
      exact closed_compileCondition (hs ▸ hclause)
    · exact ih hrest s hs

lemma closed_join {separator : String} (hsep : Closed separator 0) {fragments : List Statement}
    (h : ∀ s ∈ fragments, s.IsClosed) : (Statement.join separator fragments).IsClosed := by
  have hall : ∀ f ∈ fragments.map fun s => (s.text, s.params.length), Closed f.1 f.2 :=
    List.forall_mem_map.2 h
  have hclosed := closed_intercalate hsep hall
  rw [List.map_map, List.map_map] at hclosed
  rw [Statement.IsClosed, Statement.join, List.length_flatMap]
  exact hclosed

lemma closed_conjoin {clauses : List Statement} (h : ∀ s ∈ clauses, s.IsClosed) :
    ((conjoin clauses).getD .empty).IsClosed := by
  have hand : Closed " AND " 0 := closed_of_unmarked (by decide)
  rw [conjoin]
  split_ifs
  · exact closed_empty
  · exact closed_join hand h

/-- The parameters of a conjunction are those of its clauses. -/
lemma params_conjoined (clauses : List Statement) :
    ((conjoin clauses).getD .empty).params = clauses.flatMap Statement.params := by
  cases clauses <;> rfl

lemma closed_compileWhere {d : Dialect} {conditions : Value} {s : Statement}
    (h : compileWhere d conditions = .ok s) : s.IsClosed := by
  simp only [compileWhere, bind_eq_ok_iff, pure_eq_ok, Except.ok.injEq] at h
  obtain ⟨clauses, hclauses, rfl⟩ := h
  exact closed_conjoin (closed_compileConditions hclauses)

end DocTable
