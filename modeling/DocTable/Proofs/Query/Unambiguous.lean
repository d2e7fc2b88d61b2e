/-
# Compiled conditions tell the conditions apart

The text of a clause can be told from what follows it, so clauses with ` AND ` between them have one
reading only, whatever stands in the names. The text gives the paths, the tests and the number of
operands of each, and the parameters are dealt out to the tests in order.
-/
import DocTable.Proofs.Query.Clause
import DocTable.Proofs.Query.PathCode
import Mathlib.Data.List.Forall2

namespace DocTable

/-! ## Tests -/

namespace Statement

/-- The placeholders tell their number. -/
lemma placeholders_injective : Function.Injective placeholders := by
  intro m n h
  have hm := closed_placeholders m false
  have hn := closed_placeholders n false
  rw [h, hn] at hm
  exact (Prod.mk.inj hm).2.symm

lemma placeholders_add_two (count : Nat) :
    placeholders (count + 2) = "?" ++ ", " ++ placeholders (count + 1) := by
  simp only [placeholders, List.replicate_succ, String.intercalate_cons_cons]

lemma parenthesis_notMem_placeholders (count : Nat) : ')' ∉ (placeholders count).toList := by
  induction count with
  | zero => decide
  | succ count ih =>
    cases count with
    | zero => decide
    | succ count =>
      rw [placeholders_add_two, String.toList_append, List.mem_append, not_or]
      exact ⟨by decide, ih⟩

end Statement

namespace Test

/-- All tests. -/
def all : List Test :=
  [isNull, isNotNull, compares .equal, compares .notEqual, compares .memberOf, compares .atMost,
    compares .atLeast, compares .matching, isAmong]

lemma mem_all (t : Test) : t ∈ all := by
  cases t with
  | compares op => cases op <;> decide
  | _ => decide

/-- No start of a test begins that of another. -/
lemma head_prefixFree :
    ∀ t ∈ all, ∀ t' ∈ all, t.head.toList <+: t'.head.toList → t = t' := by decide

lemma head_append_inj {t t' : Test} {x y : List Char}
    (h : t.head.toList ++ x = t'.head.toList ++ y) : t = t' ∧ x = y := by
  have hleft : t.head.toList <+: t'.head.toList ++ y := ⟨x, h⟩
  -- two texts that begin the same text begin one another
  have htest : t = t' := by
    rcases List.prefix_or_prefix_of_prefix hleft (List.prefix_append _ y) with hpre | hpre
    · exact head_prefixFree t t.mem_all t' t'.mem_all hpre
    · exact (head_prefixFree t' t'.mem_all t t.mem_all hpre).symm
  rw [htest] at h
  exact ⟨htest, List.append_cancel_left h⟩

/-- What follows the start of a test tells the number of operands. -/
lemma tail_append_inj {t : Test} {m n : Nat} {x y : List Char} (hm : t.Takes m) (hn : t.Takes n)
    (h : (t.tail m).toList ++ x = (t.tail n).toList ++ y) : m = n ∧ x = y := by
  cases t with
  | isNull => exact ⟨hm.trans hn.symm, h⟩
  | isNotNull => exact ⟨hm.trans hn.symm, h⟩
  | compares op => exact ⟨hm.trans hn.symm, h⟩
  | isAmong =>
    simp only [tail, String.toList_append, List.append_assoc] at h
    obtain ⟨hcount, hxy⟩ := Text.append_mark_inj (Statement.parenthesis_notMem_placeholders m)
      (Statement.parenthesis_notMem_placeholders n) h
    exact ⟨Statement.placeholders_injective (String.toList_inj.1 hcount), hxy⟩

end Test

/-! ## Clauses -/

namespace Clause

/-- Clauses of one path and one test with as many operands. -/
def Alike (c c' : Clause) : Prop :=
  c.path = c'.path ∧ c.test = c'.test ∧ c.operands.length = c'.operands.length

variable {d : Dialect}

/-- The text of a clause can be told from what follows it. -/
lemma compile_append_inj {c c' : Clause} {x y : List Char}
    (h : (c.compile d).text.toList ++ x = (c'.compile d).text.toList ++ y) :
    c.Alike c' ∧ x = y := by
  have hblank : ∀ (t : Test) (z : List Char),
      (t.head.toList ++ z).head? ≠ some Dialect.quoteMark := by
    intro t z
    cases t <;> simp [Test.head, Dialect.quoteMark]
  simp only [compile, String.toList_append, List.append_assoc] at h
  -- the path ends in front of a blank, the test with its tail
  obtain ⟨hpath, h⟩ := Path.compile_append_inj (hblank _ _) (hblank _ _) h
  obtain ⟨htest, h⟩ := Test.head_append_inj h
  have htakes := c'.takes
  rw [← htest] at h htakes
  obtain ⟨hcount, hxy⟩ := Test.tail_append_inj c.takes htakes h
  exact ⟨⟨hpath, htest, hcount⟩, hxy⟩

/-- The text of clauses that follow another one. -/
def followers (d : Dialect) (clauses : List Clause) : List Char :=
  clauses.flatMap fun c => " AND ".toList ++ (c.compile d).text.toList

lemma followers_inj {cs ds : List Clause} (h : followers d cs = followers d ds) :
    List.Forall₂ Alike cs ds := by
  induction cs generalizing ds with
  | nil =>
    cases ds with
    | nil => exact List.Forall₂.nil
    | cons c' ds => simp [followers] at h
  | cons c cs ih =>
    cases ds with
    | nil => simp [followers] at h
    | cons c' ds =>
      simp only [followers, List.flatMap_cons, List.append_assoc] at h
      obtain ⟨halike, hrest⟩ := compile_append_inj (List.append_cancel_left h)
      exact List.Forall₂.cons halike (ih hrest)

lemma toList_join (c : Clause) (cs : List Clause) :
    (Statement.join " AND " ((c :: cs).map (compile d))).text.toList =
      (c.compile d).text.toList ++ followers d cs := by
  induction cs generalizing c with
  | nil => simp [Statement.join, followers]
  | cons c' cs ih =>
    have hih := ih c'
    simp only [Statement.join, List.map_cons, String.intercalate_cons_cons] at hih ⊢
    simp only [String.toList_append, List.append_assoc, hih, followers, List.flatMap_cons]

/-- The text of some clauses together tells their paths, their tests and the number of operands. -/
lemma alike_of_text {cs ds : List Clause}
    (h : (conjoin (cs.map (compile d))).map Statement.text =
      (conjoin (ds.map (compile d))).map Statement.text) : List.Forall₂ Alike cs ds := by
  cases cs with
  | nil =>
    cases ds with
    | nil => exact List.Forall₂.nil
    | cons c' ds => cases h
  | cons c cs =>
    cases ds with
    | nil => cases h
    | cons c' ds =>
      have htext := congrArg String.toList (Option.some.inj h)
      rw [toList_join, toList_join] at htext
      obtain ⟨halike, hrest⟩ := compile_append_inj htext
      exact List.Forall₂.cons halike (followers_inj hrest)

/-- Clauses of one path and one test, whose operands are the same in some sense. -/
def Matches (same : Value → Value → Prop) (c c' : Clause) : Prop :=
  c.path = c'.path ∧ c.test = c'.test ∧ List.Forall₂ same c.operands c'.operands

/-- Clauses that are alike share out their parameters in the same way. -/
lemma matches_of_alike {same : Value → Value → Prop} {cs ds : List Clause}
    (halike : List.Forall₂ Alike cs ds)
    (h : List.Forall₂ same (cs.flatMap operands) (ds.flatMap operands)) :
    List.Forall₂ (Matches same) cs ds := by
  induction halike with
  | nil => exact List.Forall₂.nil
  | @cons c c' cs ds hhead _ ih =>
    obtain ⟨hpath, htest, hcount⟩ := hhead
    rw [List.flatMap_cons, List.flatMap_cons] at h
    -- the first clauses take as many parameters each
    have hoperands := List.forall₂_take_append _ _ _ h
    have hrest := List.forall₂_drop_append _ _ _ h
    rw [← hcount, List.take_left] at hoperands
    rw [← hcount, List.drop_left] at hrest
    exact List.Forall₂.cons ⟨hpath, htest, hoperands⟩ (ih hrest)

lemma params_conjoin (d : Dialect) (cs : List Clause) :
    ((conjoin (cs.map (compile d))).getD .empty).params = cs.flatMap operands := by
  rw [params_conjoined, List.flatMap_map]
  rfl

/-- Clauses that match up to equality are the same. -/
lemma eq_of_matches {cs ds : List Clause} (h : List.Forall₂ (Matches Eq) cs ds) : cs = ds := by
  rw [← List.forall₂_eq_eq_eq]
  refine h.imp ?_
  rintro ⟨path, test, operands, takes⟩ ⟨path', test', operands', takes'⟩ ⟨hpath, htest, hoperands⟩
  rw [List.forall₂_eq_eq_eq] at hoperands
  obtain rfl : path = path' := hpath
  obtain rfl : test = test' := htest
  obtain rfl : operands = operands' := hoperands
  rfl

end Clause

/-! ## Conditions -/

/-- Conditions that compile to the same text have clauses that match, in whatever sense their
parameters are the same. -/
lemma exists_matches_of_conjoin {d : Dialect} {same : Value → Value → Prop}
    {xs ys : List (Value × Value × Value)} {cs ds : List Statement}
    (hxs : compileConditions d xs = .ok cs) (hys : compileConditions d ys = .ok ds)
    (htext : (conjoin cs).map Statement.text = (conjoin ds).map Statement.text)
    (hparams : List.Forall₂ same ((conjoin cs).getD .empty).params
      ((conjoin ds).getD .empty).params) :
    ∃ clauses clauses', Clause.allOf xs = .ok clauses ∧ Clause.allOf ys = .ok clauses' ∧
      List.Forall₂ (Clause.Matches same) clauses clauses' := by
  rw [Clause.compileConditions_eq, map_eq_ok_iff] at hxs hys
  obtain ⟨clauses, hclauses, rfl⟩ := hxs
  obtain ⟨clauses', hclauses', rfl⟩ := hys
  rw [Clause.params_conjoin, Clause.params_conjoin] at hparams
  exact ⟨clauses, clauses', hclauses, hclauses',
    Clause.matches_of_alike (Clause.alike_of_text htext) hparams⟩

/-- Lists of conditions that compile to the same statement have the same clauses, position by
position: the same path, the same test and the same encoded operands. Where the parameters are only
the same in some sense, so are the operands. Different paths never compile to the same
expression. -/
theorem clauses_eq_of_conjoin (d : Dialect) :
    (∀ (xs ys : List (Value × Value × Value)) (cs ds : List Statement),
      compileConditions d xs = .ok cs → compileConditions d ys = .ok ds →
      conjoin cs = conjoin ds →
      ∃ clauses, Clause.allOf xs = .ok clauses ∧ Clause.allOf ys = .ok clauses) ∧
    (∀ (same : Value → Value → Prop) (xs ys : List (Value × Value × Value))
      (cs ds : List Statement),
      compileConditions d xs = .ok cs → compileConditions d ys = .ok ds →
      (conjoin cs).map Statement.text = (conjoin ds).map Statement.text →
      List.Forall₂ same ((conjoin cs).getD .empty).params ((conjoin ds).getD .empty).params →
      ∃ clauses clauses', Clause.allOf xs = .ok clauses ∧ Clause.allOf ys = .ok clauses' ∧
        List.Forall₂ (Clause.Matches same) clauses clauses') ∧
    Function.Injective (Path.compile d) := by
  refine ⟨?_, ?_, Path.compile_injective d⟩
  · intro xs ys cs ds hxs hys h
    have hparams : List.Forall₂ Eq ((conjoin cs).getD .empty).params
        ((conjoin ds).getD .empty).params := by
      rw [h, List.forall₂_eq_eq_eq]
    obtain ⟨clauses, clauses', hclauses, hclauses', hmatches⟩ :=
      exists_matches_of_conjoin hxs hys (congrArg _ h) hparams
    rw [← Clause.eq_of_matches hmatches] at hclauses'
    exact ⟨clauses, hclauses, hclauses'⟩
  · intro same xs ys cs ds hxs hys htext hparams
    exact exists_matches_of_conjoin hxs hys htext hparams

/-- A membership in a list or in a tuple, next to a membership in nothing or to an unknown
comparison. -/
theorem clauses_eq_of_conjoin_memberships :
    ∃ clauses,
      Clause.allOf [(.text "tags.0", .text "$in", .list [.text "a", .text "b"]),
        (.text "note", .operator .memberOf, .list [])] = .ok clauses ∧
      Clause.allOf [(.text "note", .text "$like", .text "a"),
        (.text "tags.0", .text "$IN", .tuple [.text "a", .text "b"])] = .ok clauses :=
  (clauses_eq_of_conjoin .standard).1 _ _ _ _ rfl rfl rfl

end DocTable
