/-
# Decimal digits of numbers

The text of a number is its decimal digits, after a sign if it is negative. None of them is a mark,
there is at least one, and a positive number does not start with a zero.

Texts are compared character by character. So digits compare as their numbers do if there are as
many of them, and what follows them matters only if they are the same.
-/
import Mathlib.Data.List.Lex
import Mathlib.Data.String.Basic
import Mathlib.Tactic.Common

namespace DocTable
namespace Text

lemma isDigit_of_mem_decimal {n : Nat} : ∀ c ∈ Nat.toDigits 10 n, c.isDigit :=
  fun _ hc => Nat.isDigit_of_mem_toDigits (by decide) (by decide) hc

lemma ne_of_isDigit {c d : Char} (hc : c.isDigit) (hd : d.isDigit = false) : c ≠ d := by
  rintro rfl
  exact absurd hc (by simp [hd])

lemma exists_cons_decimal (n : Nat) :
    ∃ c digits, Nat.toDigits 10 n = c :: digits ∧ c.isDigit := by
  cases hds : Nat.toDigits 10 n with
  | nil => exact absurd hds Nat.toDigits_ne_nil
  | cons c digits => exact ⟨c, digits, rfl, isDigit_of_mem_decimal (n := n) c (by simp [hds])⟩

/-- The decimal digits of a positive number do not start with a zero. -/
lemma head?_decimal_ne {n : Nat} (h : 0 < n) : (Nat.toDigits 10 n).head? ≠ some '0' := by
  induction n using Nat.strongRecOn with
  | ind n ih =>
    rw [Nat.toDigits_eq_if (by decide)]
    split_ifs with hn
    · simp; omega
    · -- the first digit is that of the number without its last digit
      have hdiv := ih (n / 10) (by omega) (by omega)
      rwa [List.head?_append, Option.or_of_isSome (by simp [Nat.toDigits_ne_nil])]

lemma toList_repr_ofNat (n : Nat) : (Int.repr (.ofNat n)).toList = Nat.toDigits 10 n :=
  Nat.toList_repr

lemma toList_repr_negSucc (n : Nat) :
    (Int.repr (.negSucc n)).toList = '-' :: Nat.toDigits 10 (n + 1) := by
  simp [Int.repr]

/-! ## Order -/

section Order

variable {l m x y : List Char} {c : Char}

/-- Texts that start with as many characters compare by these first. -/
lemma append_lt_append_iff (hlength : l.length = m.length) :
    l ++ x < m ++ y ↔ l < m ∨ l = m ∧ x < y := by
  induction l generalizing m with
  | nil =>
    obtain rfl : m = [] := List.eq_nil_of_length_eq_zero hlength.symm
    simp
  | cons a l ih =>
    cases m with
    | nil => cases hlength
    | cons b m =>
      have hrest : l ++ x < m ++ y ↔ l < m ∨ l = m ∧ x < y := ih (Nat.succ.inj hlength)
      simp only [List.cons_append, List.cons_lt_cons_iff, List.cons.injEq, hrest]
      tauto

/-- Texts up to a mark compare by what stands before it, if the mark is less than all of that. -/
lemma append_mark_lt_append_mark_iff (hl : ∀ a ∈ l, c < a) (hm : ∀ b ∈ m, c < b) :
    l ++ c :: x < m ++ c :: y ↔ l < m ∨ l = m ∧ x < y := by
  induction l generalizing m with
  | nil =>
    cases m with
    | nil => simp
    | cons b m =>
      have hfirst : c < b := hm b List.mem_cons_self
      simp [List.cons_lt_cons_iff, hfirst]
  | cons a l ih =>
    have ha : c < a := hl a List.mem_cons_self
    cases m with
    | nil => simp [List.cons_lt_cons_iff, ha.not_gt, ha.ne']
    | cons b m =>
      have hrest : l ++ c :: x < m ++ c :: y ↔ l < m ∨ l = m ∧ x < y :=
        ih (fun a ha => hl a (List.mem_cons_of_mem _ ha))
          (fun b hb => hm b (List.mem_cons_of_mem _ hb))
      simp only [List.cons_append, List.cons_lt_cons_iff, List.cons.injEq, hrest]
      tauto

lemma digitChar_lt_digitChar_iff {i j : Nat} (hi : i < 10) (hj : j < 10) :
    Nat.digitChar i < Nat.digitChar j ↔ i < j := by
  have hlt : ∀ a b : Char, a < b ↔ a.toNat < b.toNat := fun a b => by
    rw [Char.lt_def, UInt32.lt_iff_toNat_lt]
    rfl
  rw [hlt, Nat.toNat_digitChar_of_lt_ten hi, Nat.toNat_digitChar_of_lt_ten hj]
  omega

lemma decimal_inj {m n : Nat} : Nat.toDigits 10 m = Nat.toDigits 10 n ↔ m = n := by
  constructor
  · intro h
    rw [← Nat.ofDigitChars_ten_toDigits (n := m), h, Nat.ofDigitChars_ten_toDigits]
  · intro h
    rw [h]

/-- Numbers with as many digits compare as their digits do. -/
lemma decimal_lt_decimal_iff {m n : Nat}
    (hlength : (Nat.toDigits 10 m).length = (Nat.toDigits 10 n).length) :
    Nat.toDigits 10 m < Nat.toDigits 10 n ↔ m < n := by
  induction m using Nat.strongRecOn generalizing n with
  | ind m ih =>
    -- with one digit less there are none left of a number below ten
    have hmany : ∀ k, (Nat.toDigits 10 k ++ [Nat.digitChar (n % 10)]).length ≠ 1 := by
      intro k
      simp [Nat.toDigits_ne_nil]
    by_cases hm : m < 10
    · have hn : n < 10 := by
        by_contra hn
        have hone : (Nat.toDigits 10 m).length = 1 := by rw [Nat.toDigits_of_lt_base hm]; rfl
        rw [Nat.toDigits_of_base_le (by decide) (by omega : 10 ≤ n)] at hlength
        exact hmany _ (hlength.symm.trans hone)
      rw [Nat.toDigits_of_lt_base hm, Nat.toDigits_of_lt_base hn, List.cons_lt_cons_iff,
        digitChar_lt_digitChar_iff hm hn]
      simp
    · have hn : 10 ≤ n := by
        by_contra hn
        have hone : (Nat.toDigits 10 n).length = 1 := by
          rw [Nat.toDigits_of_lt_base (by omega)]
          rfl
        rw [Nat.toDigits_of_base_le (by decide) (by omega : 10 ≤ m), hone] at hlength
        simp [Nat.toDigits_ne_nil] at hlength
      rw [Nat.toDigits_of_base_le (by decide) (by omega : 10 ≤ m),
        Nat.toDigits_of_base_le (by decide) hn] at hlength ⊢
      have hrest : (Nat.toDigits 10 (m / 10)).length = (Nat.toDigits 10 (n / 10)).length := by
        simpa using hlength
      have hlast : Nat.digitChar (m % 10) < Nat.digitChar (n % 10) ↔ m % 10 < n % 10 :=
        digitChar_lt_digitChar_iff (by omega) (by omega)
      rw [append_lt_append_iff hrest, ih (m / 10) (by omega) hrest, decimal_inj,
        List.cons_lt_cons_iff, hlast]
      simp only [List.lt_irrefl, and_false, or_false]
      omega

end Order

end Text
end DocTable
