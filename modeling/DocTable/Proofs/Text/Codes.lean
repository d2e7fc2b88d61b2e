/-
# Codes that can be told from what follows them

When two texts begin with codes and are the same, the codes are the same and so is what follows
them, as long as the code shows where it ends: by a character that is not in it, or by a mark that
stands by itself while the marks in the code are written twice.
-/
import DocTable.Text.Basic
import Mathlib.Tactic.Common

namespace DocTable
namespace Text

/-- Runs without a stop, in front of a stop or of nothing, can be told from what follows them. -/
lemma append_run_inj {stop : Char → Bool} {a b x y : List Char} (ha : ∀ c ∈ a, stop c = false)
    (hb : ∀ c ∈ b, stop c = false) (hx : ∀ c ∈ x.head?, stop c = true)
    (hy : ∀ c ∈ y.head?, stop c = true) (h : a ++ x = b ++ y) : a = b ∧ x = y := by
  have hcut : ∀ {run rest : List Char}, (∀ c ∈ run, stop c = false) →
      (∀ c ∈ rest.head?, stop c = true) → (run ++ rest).dropWhile (fun c => !stop c) = rest := by
    intro run rest hrun hrest
    rw [List.dropWhile_append_of_pos fun c hc => by rw [hrun c hc]; rfl]
    cases rest with
    | nil => rfl
    | cons c rest => rw [List.dropWhile_cons_of_neg (by simp [hrest c rfl])]
  have hxy : x = y := by
    have hleft := hcut ha hx
    rw [h, hcut hb hy] at hleft
    exact hleft.symm
  rw [hxy] at h
  exact ⟨List.append_cancel_right h, hxy⟩

/-- Texts without a mark, each in front of one, can be told from what follows the mark. -/
lemma append_mark_inj {mark : Char} {a b x y : List Char} (ha : mark ∉ a) (hb : mark ∉ b)
    (h : a ++ mark :: x = b ++ mark :: y) : a = b ∧ x = y := by
  have hne : ∀ {text : List Char}, mark ∉ text → ∀ c ∈ text, (c == mark) = false := by
    intro text htext c hc
    rw [beq_eq_false_iff_ne]
    rintro rfl
    exact htext hc
  have hstop : ∀ rest : List Char, ∀ c ∈ (mark :: rest).head?, (c == mark) = true := by
    intro rest c hc
    rw [List.head?_cons, Option.mem_some_iff] at hc
    rw [hc, beq_self_eq_true]
  obtain ⟨hab, hxy⟩ := append_run_inj (hne ha) (hne hb) (hstop x) (hstop y) h
  exact ⟨hab, (List.cons.inj hxy).2⟩

/-- Texts in which a mark is written twice, each in front of a mark that stands by itself, can be
told from what follows the mark. -/
lemma doubled_append_mark_inj {mark : Char} {a b x y : List Char} (hx : x.head? ≠ some mark)
    (hy : y.head? ≠ some mark)
    (h : doubled mark a ++ mark :: x = doubled mark b ++ mark :: y) : a = b ∧ x = y := by
  induction a generalizing b with
  | nil =>
    cases b with
    | nil => exact ⟨rfl, (List.cons.inj h).2⟩
    | cons d ds =>
      rw [doubled, doubled] at h
      split_ifs at h with hd
      · -- a mark of the other code is written twice, and here a mark stands by itself
        rw [(List.cons.inj h).2] at hx
        exact absurd rfl hx
      · exact absurd (List.cons.inj h).1.symm hd
  | cons c cs ih =>
    rw [doubled] at h
    split_ifs at h with hc
    · cases b with
      | nil =>
        rw [← (List.cons.inj h).2] at hy
        exact absurd rfl hy
      | cons d ds =>
        rw [doubled] at h
        split_ifs at h with hd
        · obtain ⟨hds, hxy⟩ := ih (List.cons.inj (List.cons.inj h).2).2
          exact ⟨by rw [hc, hd, hds], hxy⟩
        · exact absurd (List.cons.inj h).1.symm hd
    · cases b with
      | nil => exact absurd (List.cons.inj h).1 hc
      | cons d ds =>
        rw [doubled] at h
        split_ifs at h with hd
        · exact absurd (List.cons.inj h).1 hc
        · obtain ⟨hds, hxy⟩ := ih (List.cons.inj h).2
          exact ⟨by rw [(List.cons.inj h).1, hds], hxy⟩

lemma splitOn_ne_nil (separator : Char) (text : List Char) : splitOn separator text ≠ [] := by
  cases text with
  | nil => simp [splitOn]
  | cons c rest =>
    rw [splitOn]
    split_ifs
    · simp
    · split <;> simp

/-- The pieces of a text with the separator between them are the text. -/
lemma intercalate_splitOn (separator : Char) (text : List Char) :
    [separator].intercalate (splitOn separator text) = text := by
  induction text with
  | nil => rfl
  | cons c rest ih =>
    rw [splitOn]
    split_ifs with hc
    · rw [List.intercalate_cons_of_ne_nil (splitOn_ne_nil separator rest), ih, hc]
      rfl
    · split
      · rename_i hnil
        exact absurd hnil (splitOn_ne_nil separator rest)
      · rename_i piece pieces hpieces
        rw [hpieces] at ih
        rw [List.intercalate_cons_cons_left, ih]

/-- A text with a separator has at least two pieces. -/
lemma exists_splitOn_of_mem {separator : Char} {text : List Char} (h : separator ∈ text) :
    ∃ first second rest, splitOn separator text = first :: second :: rest := by
  induction text with
  | nil => cases h
  | cons c cs ih =>
    rw [splitOn]
    split_ifs with hc
    · obtain ⟨piece, pieces, hpieces⟩ := List.exists_cons_of_ne_nil (splitOn_ne_nil separator cs)
      exact ⟨[], piece, pieces, by rw [hpieces]⟩
    · obtain ⟨first, second, rest, hpieces⟩ :=
        ih ((List.mem_cons.1 h).resolve_left fun heq => hc heq.symm)
      exact ⟨c :: first, second, rest, by rw [hpieces]⟩

lemma splitOn_injective (separator : Char) : Function.Injective (splitOn separator) := by
  intro a b h
  rw [← intercalate_splitOn separator a, h, intercalate_splitOn]

end Text
end DocTable
