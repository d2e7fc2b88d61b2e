/-
# Writes with their placeholders

The statements that insert, update and delete rows are closed and have as many placeholders as
parameters. For an update, the placeholders of the assignments come first. The texts of numbers are
closed as well, since no mark is among their characters.
-/
import DocTable.Number.Shortest
import DocTable.Proofs.Query.Closed
import DocTable.Proofs.Text.Digits
import DocTable.Query.Write

namespace DocTable

open Lexing

/-! ## Numbers -/

lemma Lexing.Unmarked.of_subset {a b : List Char} (hb : Unmarked b) (h : a ⊆ b) : Unmarked a :=
  fun c hc => hb c (h hc)

lemma unmarked_decimal (n : Nat) : Unmarked (Nat.toDigits 10 n) := by
  intro c hc
  have hne : ∀ mark : Char, mark.isDigit = false → c ≠ mark := fun _ hmark =>
    Text.ne_of_isDigit (Text.isDigit_of_mem_decimal c hc) hmark
  simp [hne Dialect.quoteMark (by decide), hne apostrophe (by decide), hne '?' (by decide)]

lemma closed_int (n : Int) : Closed (Int.repr n) 0 := by
  refine closed_of_unmarked ?_
  cases n with
  | ofNat m =>
    rw [Text.toList_repr_ofNat]
    exact unmarked_decimal m
  | negSucc m =>
    rw [Text.toList_repr_negSucc]
    exact Unmarked.append (a := ['-']) (by decide) (unmarked_decimal (m + 1))

namespace Binary64

lemma unmarked_replicate_zero (count : Nat) : Unmarked (List.replicate count '0') := by
  intro c hc
  rw [(List.mem_replicate.1 hc).2]
  decide

lemma unmarked_positional {digits : List Char} (h : Unmarked digits) (places : Int) :
    Unmarked (positional digits places) := by
  have htake : ∀ n, Unmarked (digits.take n) := fun n => h.of_subset (List.take_subset n digits)
  have hdrop : ∀ n, Unmarked (digits.drop n) := fun n => h.of_subset (List.drop_subset n digits)
  rw [positional]
  split_ifs
  · exact (Unmarked.append (a := ['0', '.']) (by decide) (unmarked_replicate_zero _)).append h
  · exact (h.append (unmarked_replicate_zero _)).append (by decide)
  · exact (htake _).append (Unmarked.append (a := ['.']) (by decide) (hdrop _))

lemma unmarked_scientific {digits : List Char} (h : Unmarked digits) (exponent : Int) :
    Unmarked (scientific digits exponent) := by
  have hfirst : Unmarked (digits.take 1) := h.of_subset (List.take_subset 1 digits)
  have hrest : Unmarked (if digits.length ≤ 1 then [] else '.' :: digits.drop 1) := by
    split_ifs
    · decide
    · exact Unmarked.append (a := ['.']) (by decide) (h.of_subset (List.drop_subset 1 digits))
  have hsign : Unmarked ['e', if exponent < 0 then '-' else '+'] := by
    split_ifs <;> decide
  have hpadding :
      Unmarked (if (Nat.toDigits 10 exponent.natAbs).length < 2 then ['0'] else []) := by
    split_ifs <;> decide
  have hpower := unmarked_decimal exponent.natAbs
  exact ((hfirst.append hrest).append (hsign.append hpadding)).append hpower

lemma unmarked_withoutTrailingZeros {digits : List Char} (h : Unmarked digits) :
    Unmarked (withoutTrailingZeros digits).1 := by
  refine h.of_subset fun c hc => ?_
  rw [withoutTrailingZeros, List.mem_reverse] at hc
  exact List.mem_reverse.1 ((List.dropWhile_suffix _).subset hc)

lemma unmarked_magnitudeText (x : Binary64) : Unmarked x.magnitudeText := by
  have hdigits := unmarked_withoutTrailingZeros (unmarked_decimal x.shortest.1)
  rw [magnitudeText]
  split_ifs with hzero
  · decide
  · dsimp only
    split_ifs
    · exact unmarked_positional hdigits _
    · exact unmarked_scientific hdigits _

lemma closed_text (x : Binary64) : Closed (x.text shownNames) 0 := by
  have hsign : Closed (if x.isNegative then "-" else "") 0 := by
    split_ifs
    · exact closed_of_unmarked (by decide)
    · exact closed_empty
  have hmagnitude : Closed (String.ofList x.magnitudeText) 0 :=
    closed_of_unmarked (by rw [String.toList_ofList]; exact unmarked_magnitudeText x)
  have hrest : Closed (if x.isInfinite then shownNames.infinity
      else String.ofList x.magnitudeText) 0 := by
    split_ifs
    · exact closed_of_unmarked (by decide)
    · exact hmagnitude
  by_cases hnan : x.isNaN
  · rw [text, if_pos hnan]
    exact closed_of_unmarked (by decide)
  · rw [text, if_neg hnan]
    exact hsign.append_zero hrest

end Binary64

/-! ## Writes -/

section Writes

variable {d : Dialect} {table : String}

lemma exists_quote_of_quoteValue {label : Value} {name : String}
    (h : Dialect.quoteValue label = .ok name) : ∃ text, name = Dialect.quote text := by
  simp only [Dialect.quoteValue, bind_eq_ok_iff, pure_eq_ok, Except.ok.injEq] at h
  obtain ⟨text, -, rfl⟩ := h
  exact ⟨text, rfl⟩

lemma closed_quoteValue {v : Value} {s : String} (h : Dialect.quoteValue v = .ok s) :
    Closed s 0 := by
  obtain ⟨name, rfl⟩ := exists_quote_of_quoteValue h
  exact closed_quote name

lemma mapM_quoteValue {pairs : List (Value × Value)} {names : List String}
    (h : (pairs.mapM fun pair => Dialect.quoteValue pair.1) = .ok names) :
    names.length = pairs.length ∧ ∀ name ∈ names, Closed name 0 := by
  refine ⟨(mapM_eq_ok_iff.1 h).length_eq.symm, fun name hname => ?_⟩
  obtain ⟨pair, -, hpair⟩ := exists_of_mem_mapM h hname
  exact closed_quoteValue hpair

lemma sum_map_const {α : Type} (items : List α) (n : Nat) :
    (items.map fun _ => n).sum = items.length * n := by
  induction items with
  | nil => simp
  | cons item items ih =>
    rw [List.map_cons, List.sum_cons, ih, List.length_cons, Nat.succ_mul, Nat.add_comm]

/-- Names between commas, each followed by a fragment, have the placeholders of the fragment as
often as there are names. -/
lemma closed_quotedNames {pairs : List (Value × Value)} {after text : String} {n : Nat}
    (hafter : Closed after n) (h : quotedNames pairs after = .ok text) :
    Closed text (pairs.length * n) := by
  simp only [quotedNames, bind_eq_ok_iff, pure_eq_ok, Except.ok.injEq] at h
  obtain ⟨names, hnames, rfl⟩ := h
  obtain ⟨hlength, hclosed⟩ := mapM_quoteValue hnames
  have hcomma : Closed ", " 0 := closed_of_unmarked (by decide)
  have hall : ∀ f ∈ names.map fun name => (name ++ after, n), Closed f.1 f.2 :=
    List.forall_mem_map.2 fun name hname => (hclosed name hname).append_zero hafter
  have hjoined := closed_intercalate hcomma hall
  rw [List.map_map, List.map_map] at hjoined
  rwa [← hlength, ← sum_map_const names n]

lemma closed_insertDefaults (d : Dialect) (table : String) : Closed (d.insertDefaults table) 0 := by
  have hinsert : Closed "INSERT INTO " 0 := closed_of_unmarked (by decide)
  have htable := hinsert.append_zero (closed_quote table)
  rw [Dialect.insertDefaults]
  split
  · exact htable.append_zero (closed_of_unmarked (by decide))
  · exact htable.append_zero (closed_of_unmarked (by decide))

/-- A statement that inserts is closed. -/
lemma isClosed_compileInsert {pairs : List (Value × Value)} {s : Statement}
    (h : compileInsert d table pairs = .ok s) : s.IsClosed := by
  rw [compileInsert] at h
  split_ifs at h
  · cases h
    exact closed_insertDefaults d table
  · simp only [bind_eq_ok_iff, pure_eq_ok, Except.ok.injEq] at h
    obtain ⟨columns, hcolumns, rfl⟩ := h
    have hinsert : Closed "INSERT INTO " 0 := closed_of_unmarked (by decide)
    have hopen : Closed " (" 0 := closed_of_unmarked (by decide)
    have hvalues : Closed ") VALUES (" 0 := closed_of_unmarked (by decide)
    have hclose : Closed ")" 0 := closed_of_unmarked (by decide)
    have hnames := closed_quotedNames closed_empty hcolumns
    rw [Statement.IsClosed, List.length_map]
    exact (((((hinsert.append_zero (closed_quote table)).append_zero hopen).append_zero
      hnames).append_zero hvalues).append_zero (closed_placeholders _)).append hclose

/-- A condition that may be empty leaves a closed clause. -/
lemma closed_whereClause {condition : String} {n : Nat} (h : Closed condition n) :
    Closed (Dialect.whereClause condition) n := by
  rw [Dialect.whereClause]
  split_ifs with hempty
  · -- an empty condition has no placeholders
    rw [String.isEmpty_iff] at hempty
    exact hempty ▸ h
  · exact Closed.append_zero (closed_of_unmarked (by decide)) h

lemma closed_singleRow (d : Dialect) (table : String) {condition : String} {n : Nat}
    (h : Closed condition n) : Closed (d.singleRow table condition) n := by
  have hlimit : Closed " LIMIT 1" 0 := closed_of_unmarked (by decide)
  have hwhere : Closed " WHERE " 0 := closed_of_unmarked (by decide)
  have hselect : Closed " IN (SELECT " 0 := closed_of_unmarked (by decide)
  have hfrom : Closed " FROM " 0 := closed_of_unmarked (by decide)
  have hclose : Closed " LIMIT 1)" 0 := closed_of_unmarked (by decide)
  rw [Dialect.singleRow]
  split
  · -- the row is chosen by a selection that has the condition inside
    exact ((((((hwhere.append_zero (closed_quote "id")).append_zero hselect).append_zero
      (closed_quote "id")).append_zero hfrom).append_zero (closed_quote table)).append_zero
        (closed_whereClause h)).append hclose
  · exact (closed_whereClause h).append hlimit

/-- The tail of a write, by which it is restricted. -/
def restriction (d : Dialect) (table condition : String) (single : Bool) : String :=
  if single then d.singleRow table condition else Dialect.whereClause condition

lemma closed_restriction (d : Dialect) (table : String) (single : Bool) {condition : String}
    {n : Nat} (h : Closed condition n) : Closed (restriction d table condition single) n := by
  rw [restriction]
  split_ifs
  · exact closed_singleRow d table h
  · exact closed_whereClause h

lemma isClosed_compileDelete {conditions : Value} {single : Bool} {s : Statement}
    (h : compileDelete d table conditions single = .ok s) : s.IsClosed := by
  simp only [compileDelete, bind_eq_ok_iff, pure_eq_ok, Except.ok.injEq] at h
  obtain ⟨condition, hcondition, rfl⟩ := h
  have hdelete : Closed "DELETE FROM " 0 := closed_of_unmarked (by decide)
  exact (hdelete.append_zero (closed_quote table)).append_zero
    (closed_restriction d table single (closed_compileWhere hcondition))

/-- The part of an update up to its assignments. -/
def assignmentPart (table assignments : String) : String :=
  "UPDATE " ++ Dialect.quote table ++ " SET " ++ assignments

/-- An update is its assignments, with one placeholder for each, and a restriction. -/
def SplitsAfterAssignments (table : String) (pairs : List (Value × Value)) (s : Statement) : Prop :=
  ∃ assignments tail rest, quotedNames pairs " = ?" = .ok assignments ∧
    s.text = assignmentPart table assignments ++ tail ∧ s.params = pairs.map Prod.snd ++ rest ∧
    Closed (assignmentPart table assignments) pairs.length ∧ Closed tail rest.length

lemma splitsAfterAssignments_compileUpdate {pairs : List (Value × Value)} {conditions : Value}
    {single : Bool} {s : Statement} (h : compileUpdate d table pairs conditions single = .ok s) :
    SplitsAfterAssignments table pairs s := by
  simp only [compileUpdate, bind_eq_ok_iff, pure_eq_ok, Except.ok.injEq] at h
  obtain ⟨assignments, hassignments, condition, hcondition, rfl⟩ := h
  have hupdate : Closed "UPDATE " 0 := closed_of_unmarked (by decide)
  have hset : Closed " SET " 0 := closed_of_unmarked (by decide)
  have hmark : Closed " = ?" 1 := by intro escapes; cases escapes <;> rfl
  have hnames := closed_quotedNames hmark hassignments
  rw [Nat.mul_one] at hnames
  exact ⟨assignments, _, condition.params, hassignments, rfl, rfl,
    ((hupdate.append_zero (closed_quote table)).append_zero hset).append_zero hnames,
    closed_restriction d table single (closed_compileWhere hcondition)⟩

lemma isClosed_of_splits {pairs : List (Value × Value)} {s : Statement}
    (h : SplitsAfterAssignments table pairs s) : s.IsClosed := by
  obtain ⟨assignments, tail, rest, -, htext, hparams, hhead, htail⟩ := h
  rw [Statement.IsClosed, htext, hparams, List.length_append, List.length_map]
  exact hhead.append htail

end Writes
end DocTable
