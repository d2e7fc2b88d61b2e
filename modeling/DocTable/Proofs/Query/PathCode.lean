/-
# Expressions of paths tell the paths apart

From the expression of a path, together with whatever follows it, the path can be read off: quote
marks and apostrophes are written twice inside, and the steps of a JSON path show by their first
character how they end. So two paths never have the same expression.
-/
import DocTable.Proofs.Query.Path
import DocTable.Proofs.Text.Codes

namespace DocTable
namespace Path

/-! ## Steps into a JSON value -/

lemma keyChar_append_inj {c d : Char} {x y : List Char} (h : keyChar c ++ x = keyChar d ++ y) :
    c = d ∧ x = y := by
  -- an escape never reads as a character that stands for itself
  have hne : ∀ (e : Char) (u v : List Char), e ≠ '\x5c' → '\x5c' :: u ≠ e :: v := by
    intro e u v he heq
    exact he (List.cons.inj heq).1.symm
  rw [keyChar, keyChar] at h
  split_ifs at h <;> simp_all

/-- A character inside a quoted key is never written as the mark that closes the key. -/
lemma keyChar_append_ne (c : Char) (x y : List Char) : keyChar c ++ x ≠ '\x22' :: y := by
  rw [keyChar]
  split_ifs <;> simp_all

lemma quotedKey_inj {a b x y : List Char}
    (h : a.flatMap keyChar ++ '\x22' :: x = b.flatMap keyChar ++ '\x22' :: y) : a = b ∧ x = y := by
  induction a generalizing b with
  | nil =>
    cases b with
    | nil => exact ⟨rfl, (List.cons.inj h).2⟩
    | cons d ds =>
      rw [List.flatMap_cons, List.append_assoc] at h
      exact absurd h.symm (keyChar_append_ne d _ _)
  | cons c cs ih =>
    cases b with
    | nil =>
      rw [List.flatMap_cons, List.append_assoc] at h
      exact absurd h (keyChar_append_ne c _ _)
    | cons d ds =>
      rw [List.flatMap_cons, List.flatMap_cons, List.append_assoc, List.append_assoc] at h
      obtain ⟨hcd, hrest⟩ := keyChar_append_inj h
      obtain ⟨hds, hxy⟩ := ih hrest
      exact ⟨by rw [hcd, hds], hxy⟩

/-- Whether a character starts a step. -/
def startsStep (c : Char) : Bool := c == '.' || c == '['

/-- A text that is empty or starts with a step. -/
def FollowsStep (text : List Char) : Prop := ∀ c ∈ text.head?, startsStep c = true

lemma startsStep_eq_false {c : Char} (hdot : c ≠ '.') (hbracket : c ≠ '[') :
    startsStep c = false := by
  simp [startsStep, hdot, hbracket]

/-- A name has no characters that start steps. -/
lemma startsStep_of_isIdentifier {segment : List Char} (h : isIdentifier segment = true) :
    ∀ c ∈ segment, startsStep c = false := fun c hc =>
  startsStep_eq_false (ne_of_isIdentifier h '.' (by decide) (by decide) c hc)
    (ne_of_isIdentifier h '[' (by decide) (by decide) c hc)

/-- No digit is the mark that closes an index. -/
lemma notMem_of_isIndex {segment : List Char} (h : isIndex segment = true) : ']' ∉ segment :=
  fun hmem => ne_of_isIndex h ']' (by decide) _ hmem rfl

/-- The three forms of a step. -/
lemma step_cases (segment : List Char) :
    (isIndex segment = true ∧ step segment = '[' :: (segment ++ [']'])) ∨
    (isIdentifier segment = true ∧ step segment = '.' :: segment) ∨
    step segment = '.' :: '\x22' :: (segment.flatMap keyChar ++ ['\x22']) := by
  rw [step]
  split_ifs with hindex hidentifier
  · exact Or.inl ⟨hindex, rfl⟩
  · exact Or.inr (Or.inl ⟨hidentifier, rfl⟩)
  · exact Or.inr (Or.inr rfl)

/-- A plain identifier does not start as a quoted key does. -/
lemma identifier_append_ne {segment : List Char} (h : isIdentifier segment = true)
    (x y : List Char) : segment ++ x ≠ '\x22' :: y := by
  have hne := ne_of_isIdentifier h '\x22' (by decide) (by decide)
  cases segment with
  | nil => cases h
  | cons c cs =>
    intro heq
    exact hne c List.mem_cons_self (List.cons.inj heq).1

/-- A step can be told from the steps that follow it. -/
lemma step_append_inj {a b x y : List Char} (hx : FollowsStep x) (hy : FollowsStep y)
    (h : step a ++ x = step b ++ y) : a = b ∧ x = y := by
  rcases step_cases a with ⟨ha, hstep⟩ | ⟨ha, hstep⟩ | hstep <;>
    rcases step_cases b with ⟨hb, hstep'⟩ | ⟨hb, hstep'⟩ | hstep' <;>
    rw [hstep, hstep'] at h <;>
    simp only [List.cons_append, List.append_assoc, List.cons.injEq, List.nil_append] at h
  · exact Text.append_mark_inj (notMem_of_isIndex ha) (notMem_of_isIndex hb) h.2
  · exact absurd h.1 (by decide)
  · exact absurd h.1 (by decide)
  · exact absurd h.1 (by decide)
  · -- an identifier goes on up to the next step
    exact Text.append_run_inj (startsStep_of_isIdentifier ha) (startsStep_of_isIdentifier hb) hx hy
      h.2
  · exact absurd h.2 (identifier_append_ne ha _ _)
  · exact absurd h.1 (by decide)
  · exact absurd h.2.symm (identifier_append_ne hb _ _)
  · exact quotedKey_inj h.2.2

lemma followsStep_flatMap (segments : List (List Char)) : FollowsStep (segments.flatMap step) := by
  cases segments with
  | nil => intro c hc; cases hc
  | cons segment segments =>
    intro c hc
    rw [List.flatMap_cons] at hc
    rcases step_cases segment with ⟨-, hstep⟩ | ⟨-, hstep⟩ | hstep <;>
    · rw [hstep, List.cons_append, List.head?_cons, Option.mem_some_iff] at hc
      rw [← hc]
      decide

lemma flatMap_step_inj {a b : List (List Char)} (h : a.flatMap step = b.flatMap step) : a = b := by
  have hne : ∀ (segment : List Char) (rest : List Char), [] ≠ step segment ++ rest := by
    intro segment rest
    rcases step_cases segment with ⟨-, hstep⟩ | ⟨-, hstep⟩ | hstep <;> simp [hstep]
  induction a generalizing b with
  | nil =>
    cases b with
    | nil => rfl
    | cons d ds => exact absurd h (hne d _)
  | cons c cs ih =>
    cases b with
    | nil => exact absurd h.symm (hne c _)
    | cons d ds =>
      rw [List.flatMap_cons, List.flatMap_cons] at h
      obtain ⟨hcd, hrest⟩ := step_append_inj (followsStep_flatMap cs) (followsStep_flatMap ds) h
      rw [hcd, ih hrest]

lemma jsonPath_injective : Function.Injective jsonPath := by
  intro a b h
  rw [jsonPath, jsonPath, String.ofList_inj, List.cons.injEq] at h
  exact flatMap_step_inj h.2

/-! ## Expressions of paths -/

lemma quote_append_inj {a b : String} {x y : List Char} (hx : x.head? ≠ some Dialect.quoteMark)
    (hy : y.head? ≠ some Dialect.quoteMark)
    (h : (Dialect.quote a).toList ++ x = (Dialect.quote b).toList ++ y) : a = b ∧ x = y := by
  simp only [Dialect.quote, String.toList_ofList, List.cons_append, List.append_assoc,
    List.cons.injEq, true_and, List.nil_append] at h
  obtain ⟨hab, hxy⟩ := Text.doubled_append_mark_inj hx hy h
  exact ⟨String.toList_inj.1 hab, hxy⟩

lemma literal_append_inj {a b : String} {x y : List Char} (hx : x.head? ≠ some '\x27')
    (hy : y.head? ≠ some '\x27')
    (h : (Dialect.literal a).toList ++ x = (Dialect.literal b).toList ++ y) : a = b ∧ x = y := by
  simp only [Dialect.literal, String.toList_ofList, List.cons_append, List.append_assoc,
    List.cons.injEq, true_and, List.nil_append] at h
  obtain ⟨hab, hxy⟩ := Text.doubled_append_mark_inj hx hy h
  exact ⟨String.toList_inj.1 hab, hxy⟩

lemma jsonExtract_append_inj {d : Dialect} {a a' b b' : String} {x y : List Char}
    (h : (d.jsonExtract a a').toList ++ x = (d.jsonExtract b b').toList ++ y) :
    a = b ∧ a' = b' ∧ x = y := by
  have hcomma : ∀ z : List Char, (", ".toList ++ z).head? ≠ some Dialect.quoteMark := by
    intro z
    simp [Dialect.quoteMark]
  have hclose : ∀ z : List Char, (")".toList ++ z).head? ≠ some '\x27' := by
    intro z
    simp
  simp only [Dialect.jsonExtract, String.toList_append, List.append_assoc] at h
  -- the name of the function and the parenthesis only depend on the dialect
  replace h := List.append_cancel_left (List.append_cancel_left h)
  obtain ⟨hab, h⟩ := quote_append_inj (hcomma _) (hcomma _) h
  replace h := List.append_cancel_left h
  obtain ⟨hab', h⟩ := literal_append_inj (hclose _) (hclose _) h
  exact ⟨hab, hab', List.append_cancel_left h⟩

/-- A quoted name does not start as a call does. -/
lemma quote_append_ne_jsonExtract {d : Dialect} {a b b' : String} {x y : List Char} :
    (Dialect.quote a).toList ++ x ≠ (d.jsonExtract b b').toList ++ y := by
  intro h
  have hhead := congrArg List.head? h
  obtain ⟨flavour, _⟩ := d
  cases flavour <;> simp [Dialect.quote, Dialect.quoteMark, Dialect.jsonExtract] at hhead

/-- The two forms of an expression. -/
lemma compile_cases (d : Dialect) (path : String) :
    compile d path = Dialect.quote path ∨
    ∃ column segments, Text.splitOn separator path.toList = column :: segments ∧
      compile d path = d.jsonExtract (String.ofList column) (jsonPath segments) := by
  rw [compile]
  split
  · rename_i column segment segments hsplit
    exact Or.inr ⟨column, segment :: segments, hsplit, rfl⟩
  · exact Or.inl rfl

/-- The expression of a path can be told from what follows it, which is no quote mark. -/
lemma compile_append_inj {d : Dialect} {path path' : String} {x y : List Char}
    (hx : x.head? ≠ some Dialect.quoteMark) (hy : y.head? ≠ some Dialect.quoteMark)
    (h : (compile d path).toList ++ x = (compile d path').toList ++ y) :
    path = path' ∧ x = y := by
  rcases compile_cases d path with hform | ⟨column, segments, hsplit, hform⟩ <;>
    rcases compile_cases d path' with hform' | ⟨column', segments', hsplit', hform'⟩ <;>
    rw [hform, hform'] at h
  · exact quote_append_inj hx hy h
  · exact absurd h quote_append_ne_jsonExtract
  · exact absurd h.symm quote_append_ne_jsonExtract
  · -- the column and the segments are the pieces of the path between its separators
    obtain ⟨hcolumn, hsegments, hxy⟩ := jsonExtract_append_inj h
    rw [String.ofList_inj] at hcolumn
    rw [hcolumn, jsonPath_injective hsegments, ← hsplit'] at hsplit
    exact ⟨String.toList_inj.1 (Text.splitOn_injective separator hsplit), hxy⟩

lemma compile_injective (d : Dialect) : Function.Injective (compile d) := by
  intro path path' h
  have happend : (compile d path).toList ++ [] = (compile d path').toList ++ [] := by rw [h]
  exact (compile_append_inj (by decide) (by decide) happend).1

end Path
end DocTable
