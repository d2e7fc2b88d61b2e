/-
# The order of stored points in time

The text of a point in time is compared character by character where it is stored. Every part of it
but the year has two digits, so behind the year this is the order of time. The year is written with
as many digits as it has: years of the same length compare as numbers do, a shorter one before a
longer one only if its digits say so. The year 999 is stored as a text behind that of the year 1000.

Two points in time share their text exactly if they are in the same second, whatever the year.
-/
import DocTable.Codec.Encode
import DocTable.Proofs.Codec.Temporal
import DocTable.Proofs.Text.Digits

namespace DocTable
namespace Codec

open Nat (digitChar)

/-! ## Parts of two digits -/

section TwoChars

variable {m n : Nat} {x y : List Char}

lemma twoChars_append_lt_iff (hm : m < 100) (hn : n < 100) :
    twoChars m ++ x < twoChars n ++ y ↔ m < n ∨ m = n ∧ x < y := by
  have hlength : (twoChars m).length = (twoChars n).length := rfl
  have htens := Text.digitChar_lt_digitChar_iff (by omega : m / 10 < 10) (by omega : n / 10 < 10)
  have hunits := Text.digitChar_lt_digitChar_iff (by omega : m % 10 < 10) (by omega : n % 10 < 10)
  have hinj : ∀ {i j : Nat}, i < 10 → j < 10 → (digitChar i = digitChar j ↔ i = j) := by
    intro i j hi hj
    constructor
    · intro h
      have hvalue : (digitChar i).toNat = (digitChar j).toNat := by rw [h]
      rw [toNat_digitChar hi, toNat_digitChar hj] at hvalue
      omega
    · exact congrArg digitChar
  have htensEq := hinj (by omega : m / 10 < 10) (by omega : n / 10 < 10)
  have hunitsEq := hinj (by omega : m % 10 < 10) (by omega : n % 10 < 10)
  have hlt : twoChars m < twoChars n ↔ m < n := by
    simp only [twoChars, List.cons_lt_cons_iff, htens, hunits, htensEq, List.lt_irrefl, and_false,
      or_false]
    omega
  have heq : twoChars m = twoChars n ↔ m = n := by
    simp only [twoChars, List.cons.injEq, htensEq, hunitsEq, and_true]
    omega
  rw [Text.append_lt_append_iff hlength, hlt, heq]

lemma cons_lt_cons_same_iff (c : Char) : c :: x < c :: y ↔ x < y := by
  rw [List.cons_lt_cons_iff]
  simp

end TwoChars

/-! ## Whole texts -/

section StorageText

variable {t u : Timestamp}

/-- Texts of clock readings compare by the digits of the year first, then by the other parts. -/
lemma storageText_lt_iff (ht : t.Valid) (hu : u.Valid) :
    t.storageText < u.storageText ↔
      Nat.toDigits 10 t.date.year < Nat.toDigits 10 u.date.year ∨
        t.date.year = u.date.year ∧ t.afterYear < u.afterYear := by
  have hmark : ∀ n : Nat, ∀ c ∈ Nat.toDigits 10 n, '-' < c := by
    intro n c hc
    have hdigit : c.isDigit = true := Text.isDigit_of_mem_decimal c hc
    rw [Char.isDigit, Bool.and_eq_true, decide_eq_true_iff, decide_eq_true_iff] at hdigit
    exact lt_of_lt_of_le (by decide : '-'.val < '0'.val) hdigit.1
  have htext := toList_storageText ht
  have hutext := toList_storageText hu
  have hlength := Date.monthLength_le t.date.year t.date.month
  have hlength' := Date.monthLength_le u.date.year u.date.month
  obtain ⟨⟨-, -, -, hmonth, -, hday⟩, hhour, hminute, hsecond, -⟩ := ht
  obtain ⟨⟨-, -, -, hmonth', -, hday'⟩, hhour', hminute', hsecond', -⟩ := hu
  rw [String.lt_iff_toList_lt, htext, hutext, Nat.toList_repr, Nat.toList_repr,
    Text.append_mark_lt_append_mark_iff (hmark _) (hmark _), Text.decimal_inj,
    twoChars_append_lt_iff (by omega) (by omega), cons_lt_cons_same_iff,
    twoChars_append_lt_iff (by omega) (by omega), cons_lt_cons_same_iff,
    twoChars_append_lt_iff (by omega) (by omega), cons_lt_cons_same_iff,
    twoChars_append_lt_iff (by omega) (by omega), cons_lt_cons_same_iff,
    twoChars_append_lt_iff (by omega) (by omega)]
  simp only [Timestamp.afterYear, List.cons_lt_cons_iff, List.lt_irrefl, and_false, or_false]

/-- Texts of clock readings are the same exactly in the same second. -/
lemma storageText_eq_iff (ht : t.Valid) (hu : u.Valid) :
    t.storageText = u.storageText ↔ t.clockSeconds = u.clockSeconds := by
  have hbefore := storageText_lt_iff ht hu
  have hafter := storageText_lt_iff hu ht
  have hseconds := Timestamp.clockSeconds_lt_iff ht hu
  have hseconds' := Timestamp.clockSeconds_lt_iff hu ht
  constructor
  · intro h
    rw [h] at hbefore hafter
    have hnot := hbefore.not.1 (lt_irrefl _)
    have hnot' := hafter.not.1 (lt_irrefl _)
    -- neither of the years has digits before the other, so they are the same
    have hyears : t.date.year = u.date.year := by
      have hdigits : Nat.toDigits 10 t.date.year = Nat.toDigits 10 u.date.year :=
        le_antisymm (not_lt.1 fun hlt => hnot' (.inl hlt)) (not_lt.1 fun hlt => hnot (.inl hlt))
      exact Text.decimal_inj.1 hdigits
    have hrest : t.afterYear = u.afterYear :=
      le_antisymm (not_lt.1 fun hlt => hnot' (.inr ⟨hyears.symm, hlt⟩))
        (not_lt.1 fun hlt => hnot (.inr ⟨hyears, hlt⟩))
    exact Timestamp.clockSeconds_congr hyears hrest
  · intro h
    have hnot := hseconds.not.1 (by omega)
    have hnot' := hseconds'.not.1 (by omega)
    have hyears : t.date.year = u.date.year := by omega
    refine le_antisymm (not_lt.1 fun hlt => ?_) (not_lt.1 fun hlt => ?_)
    · rcases hafter.1 hlt with hdigits | hparts
      · rw [hyears] at hdigits
        exact lt_irrefl _ hdigits
      · exact hnot' (.inr hparts)
    · rcases hbefore.1 hlt with hdigits | hparts
      · rw [hyears] at hdigits
        exact lt_irrefl _ hdigits
      · exact hnot (.inr hparts)

/-- Texts compare as the readings do exactly if the digits of their years do as the years do. -/
lemma storageText_le_iff (ht : t.Valid) (hu : u.Valid) :
    (t.storageText ≤ u.storageText ↔ t.clockSeconds ≤ u.clockSeconds) ↔
      (Nat.repr t.date.year ≤ Nat.repr u.date.year ↔ t.date.year ≤ u.date.year) := by
  have hrepr : Nat.repr t.date.year ≤ Nat.repr u.date.year ↔
      ¬Nat.toDigits 10 u.date.year < Nat.toDigits 10 t.date.year := by
    rw [String.le_iff_toList_le, Nat.toList_repr, Nat.toList_repr, not_lt]
  rw [← not_lt, ← not_lt (a := u.clockSeconds), storageText_lt_iff hu ht,
    Timestamp.clockSeconds_lt_iff hu ht, hrepr]
  by_cases hyears : u.date.year = t.date.year
  · simp [hyears]
  · have hle : t.date.year ≤ u.date.year ↔ ¬u.date.year < t.date.year := not_lt.symm
    simp only [hyears, false_and, or_false, hle]

lemma repr_le_repr_iff {m n : Nat} (h : (Nat.repr m).length = (Nat.repr n).length) :
    Nat.repr m ≤ Nat.repr n ↔ m ≤ n := by
  have hlength : (Nat.toDigits 10 n).length = (Nat.toDigits 10 m).length := by
    rw [← Nat.toList_repr, ← Nat.toList_repr, String.length_toList, String.length_toList, h]
  rw [String.le_iff_toList_le, Nat.toList_repr, Nat.toList_repr, ← not_lt, ← not_lt,
    Text.decimal_lt_decimal_iff hlength]

end StorageText

/-- Points in time whose clock at offset zero stays within the calendar have texts. These are the
same exactly in the same second. They compare as the points in time do, to the second, exactly if
the digits of the years compare as the years do, and that is so for years with as many digits. -/
theorem formatTemporal_le_iff {t u reading other : Timestamp} (ht : t.Valid) (hu : u.Valid)
    (hreading : t.utc? = some reading) (hother : u.utc? = some other) :
    ∃ a b, formatTemporal (.timestamp t) = .ok a ∧ encodeValue (.timestamp t) = .ok (.text a) ∧
      formatTemporal (.timestamp u) = .ok b ∧ encodeValue (.timestamp u) = .ok (.text b) ∧
      (a = b ↔ t.utcSeconds = u.utcSeconds) ∧
      ((a ≤ b ↔ t.utcSeconds ≤ u.utcSeconds) ↔
        (Nat.repr reading.date.year ≤ Nat.repr other.date.year ↔
          reading.date.year ≤ other.date.year)) ∧
      ((Nat.repr reading.date.year).length = (Nat.repr other.date.year).length →
        (a ≤ b ↔ t.utcSeconds ≤ u.utcSeconds)) := by
  obtain ⟨hvalid, -, hseconds, -⟩ := Timestamp.utc?_spec ht hreading
  obtain ⟨hvalid', -, hseconds', -⟩ := Timestamp.utc?_spec hu hother
  have htext : formatTemporal (.timestamp t) = .ok reading.storageText := by
    rw [formatTemporal, formatTimestamp, hreading]
  have hutext : formatTemporal (.timestamp u) = .ok other.storageText := by
    rw [formatTemporal, formatTimestamp, hother]
  have hcell : encodeValue (.timestamp t) = .ok (.text reading.storageText) := by
    rw [encodeValue, formatTimestamp, hreading]
    rfl
  have hucell : encodeValue (.timestamp u) = .ok (.text other.storageText) := by
    rw [encodeValue, formatTimestamp, hother]
    rfl
  have hle : t.utcSeconds ≤ u.utcSeconds ↔ reading.clockSeconds ≤ other.clockSeconds := by omega
  have heq : t.utcSeconds = u.utcSeconds ↔ reading.clockSeconds = other.clockSeconds := by omega
  have hiff := storageText_le_iff hvalid hvalid'
  refine ⟨_, _, htext, hcell, hutext, hucell, ?_, ?_, fun hdigits => ?_⟩
  · rw [heq, storageText_eq_iff hvalid hvalid']
  · rw [hle, hiff]
  · rw [hle, hiff]
    exact repr_le_repr_iff hdigits

/-- The last second of the year 999. -/
def lastOfThreeDigits : Timestamp := ⟨⟨999, 12, 31⟩, 23, 59, 59, 0, none⟩

/-- The first second of the year 1000. -/
def firstOfFourDigits : Timestamp := ⟨⟨1000, 1, 1⟩, 0, 0, 0, 0, none⟩

/-- Seven in the morning an hour east of offset zero, and half past six there. -/
theorem formatTemporal_le_iff_offset :
    ∃ a b, formatTemporal (.timestamp ⟨⟨2024, 3, 1⟩, 7, 0, 0, 5, some 3600⟩) = .ok a ∧
      formatTemporal (.timestamp ⟨⟨2024, 3, 1⟩, 6, 30, 0, 0, some 0⟩) = .ok b ∧ a ≤ b ∧ a ≠ b := by
  have ht : (⟨⟨2024, 3, 1⟩, 7, 0, 0, 5, some 3600⟩ : Timestamp).Valid := by decide
  have hu : (⟨⟨2024, 3, 1⟩, 6, 30, 0, 0, some 0⟩ : Timestamp).Valid := by decide
  obtain ⟨a, b, ha, -, hb, -, heq, -, hle⟩ :=
    formatTemporal_le_iff ht hu (by decide : _ = some ⟨⟨2024, 3, 1⟩, 6, 0, 0, 5, none⟩)
      (by decide : _ = some ⟨⟨2024, 3, 1⟩, 6, 30, 0, 0, none⟩)
  exact ⟨a, b, ha, hb, (hle rfl).2 (by decide), fun h => absurd (heq.1 h) (by decide)⟩

/-- A second passes from the year 999 to the year 1000, and the text goes down. -/
theorem formatTemporal_gt_of_year :
    formatTemporal (.timestamp lastOfThreeDigits) = .ok "999-12-31 23:59:59" ∧
      formatTemporal (.timestamp firstOfFourDigits) = .ok "1000-01-01 00:00:00" ∧
      lastOfThreeDigits.utcSeconds + 1 = firstOfFourDigits.utcSeconds ∧
      ¬"999-12-31 23:59:59" ≤ "1000-01-01 00:00:00" := by
  refine ⟨rfl, rfl, rfl, ?_⟩
  decide

end Codec
end DocTable
