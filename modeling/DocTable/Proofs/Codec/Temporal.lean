/-
# Reading stored points in time

The text under which a point in time is stored is read back to the second: each part is two digits
(four for the year), and the first way in which a part can be read takes both of them. Only years of
four digits are read, so this holds from the year 1000 on.
-/
import DocTable.Codec.Temporal
import DocTable.Proofs.Calendar
import Mathlib.Tactic.IntervalCases

namespace DocTable

namespace Timestamp

/-- A clock reading without its microseconds. -/
def toSecond (t : Timestamp) : Timestamp := { t with micro := 0 }

end Timestamp

namespace Codec

open Nat (digitChar)

/-! ## Digits -/

lemma toNat_digitChar {k : Nat} (h : k < 10) : (digitChar k).toNat = 48 + k := by
  interval_cases k <;> rfl

/-- A number below one hundred in two digits. -/
def twoChars (n : Nat) : List Char := [digitChar (n / 10), digitChar (n % 10)]

lemma toList_padded {n : Nat} (h : n < 100) : (Text.padded 2 n).toList = twoChars n := by
  rw [Text.padded, String.toList_ofList, twoChars]
  rcases Nat.lt_or_ge n 10 with hn | hn
  · rw [Nat.toDigits_of_lt_base hn, Nat.div_eq_of_lt hn, Nat.mod_eq_of_lt hn]
    rfl
  · rw [Nat.toDigits_of_base_le (by decide) hn, Nat.toDigits_of_lt_base (by omega)]
    rfl

/-- A number of four digits. -/
lemma toList_repr_year {n : Nat} (h : 1000 ≤ n) (hn : n ≤ 9999) :
    (Nat.repr n).toList =
      [digitChar (n / 1000), digitChar (n / 100 % 10), digitChar (n / 10 % 10),
        digitChar (n % 10)] := by
  have hthousands : n / 10 / 10 / 10 = n / 1000 := by omega
  have hhundreds : n / 10 / 10 = n / 100 := by omega
  rw [Nat.toList_repr, Nat.toDigits_of_base_le (by decide) (by omega),
    Nat.toDigits_of_base_le (by decide) (by omega), Nat.toDigits_of_base_le (by decide) (by omega),
    Nat.toDigits_of_lt_base (by omega), hthousands, hhundreds]
  rfl

lemma anyDigit_digitChar {k : Nat} (h : k < 10) (rest : List Char) :
    anyDigit (digitChar k :: rest) = [(k, rest)] := by
  have hdigit : Text.decimalDigit? (digitChar k) = some k := by interval_cases k <;> rfl
  rw [anyDigit, hdigit]
  rfl

lemma digitBetween_digitChar {k : Nat} (h : k < 10) (low high : Char) (rest : List Char) :
    digitBetween low high (digitChar k :: rest) =
      if low.toNat ≤ 48 + k ∧ 48 + k ≤ high.toNat then [(k, rest)] else [] := by
  have hzero : '0'.toNat = 48 := rfl
  have hle : ∀ a b : Char, a ≤ b ↔ a.toNat ≤ b.toNat := fun a b => by
    rw [Char.le_def, UInt32.le_iff_toNat_le]
    rfl
  simp only [digitBetween, hle, toNat_digitChar h, hzero, Nat.add_sub_cancel_left]

/-! ## Parts -/

/-- A part can be read off a text, and the first way to do so gives a number and a rest. -/
def ReadsFirst (part : Part) (text : List Char) (n : Nat) (rest : List Char) : Prop :=
  (part.readings text).head? = some (n, rest)

lemma readsFirst_year {n : Nat} (h : 1000 ≤ n) (hn : n ≤ 9999) (rest : List Char) :
    ReadsFirst .year ((Nat.repr n).toList ++ rest) n rest := by
  have hvalue : 10 * (10 * (10 * (n / 1000) + n / 100 % 10) + n / 10 % 10) + n % 10 = n := by omega
  rw [ReadsFirst, toList_repr_year h hn]
  simp only [Part.readings, twoDigits, List.cons_append, List.nil_append,
    anyDigit_digitChar (show n / 1000 < 10 by omega), List.flatMap_cons, List.flatMap_nil,
    anyDigit_digitChar (Nat.mod_lt _ (by decide : 10 > 0)), List.map_cons, List.map_nil,
    List.append_nil, hvalue, List.head?_cons]

section TwoDigits

variable {tens units : List Char → List Reading} {n : Nat} {rest : List Char}

lemma twoDigits_twoChars
    (ht : tens (digitChar (n / 10) :: digitChar (n % 10) :: rest) =
      [(n / 10, digitChar (n % 10) :: rest)])
    (hu : units (digitChar (n % 10) :: rest) = [(n % 10, rest)]) :
    twoDigits tens units (twoChars n ++ rest) = [(n, rest)] := by
  have hvalue : 10 * (n / 10) + n % 10 = n := Nat.div_add_mod n 10
  simp only [twoDigits, twoChars, List.cons_append, List.nil_append, ht, List.flatMap_cons,
    List.flatMap_nil, hu, List.map_cons, List.map_nil, List.append_nil, hvalue]

lemma twoDigits_eq_nil (ht : tens (digitChar (n / 10) :: digitChar (n % 10) :: rest) = []) :
    twoDigits tens units (twoChars n ++ rest) = [] := by
  simp only [twoDigits, twoChars, List.cons_append, List.nil_append, ht, List.flatMap_nil]

/-- A part of two digits of which the tens lie between `low` and `high`. -/
lemma readTwo {low high : Char} (hn : n < 100)
    (ht : low.toNat ≤ 48 + n / 10 ∧ 48 + n / 10 ≤ high.toNat)
    (hu : units (digitChar (n % 10) :: rest) = [(n % 10, rest)]) :
    twoDigits (digitBetween low high) units (twoChars n ++ rest) = [(n, rest)] :=
  twoDigits_twoChars (by rw [digitBetween_digitChar (by omega), if_pos ht]) hu

lemma readTwo_eq_nil {low high : Char} (hn : n < 100)
    (ht : ¬(low.toNat ≤ 48 + n / 10 ∧ 48 + n / 10 ≤ high.toNat)) :
    twoDigits (digitBetween low high) units (twoChars n ++ rest) = [] :=
  twoDigits_eq_nil (by rw [digitBetween_digitChar (by omega), if_neg ht])

lemma anyDigit_units (n : Nat) (rest : List Char) :
    anyDigit (digitChar (n % 10) :: rest) = [(n % 10, rest)] :=
  anyDigit_digitChar (Nat.mod_lt _ (by decide)) rest

lemma digitBetween_units {low high : Char}
    (hu : low.toNat ≤ 48 + n % 10 ∧ 48 + n % 10 ≤ high.toNat) :
    digitBetween low high (digitChar (n % 10) :: rest) = [(n % 10, rest)] := by
  rw [digitBetween_digitChar (Nat.mod_lt _ (by decide)), if_pos hu]

lemma readsFirst_month (h : 1 ≤ n) (hn : n ≤ 12) :
    ReadsFirst .month (twoChars n ++ rest) n rest := by
  rcases Nat.lt_or_ge n 10 with hlt | hge
  · -- a month from `10` on is looked for first, and there is none
    rw [ReadsFirst, Part.readings, readTwo_eq_nil (by omega) (by simp; omega),
      readTwo (by omega) (by simp; omega) (digitBetween_units (by simp; omega))]
    rfl
  · rw [ReadsFirst, Part.readings,
      readTwo (by omega) (by simp; omega) (digitBetween_units (by simp; omega))]
    rfl

lemma readsFirst_day (h : 1 ≤ n) (hn : n ≤ 31) :
    ReadsFirst .day (twoChars n ++ rest) n rest := by
  unfold ReadsFirst Part.readings
  dsimp only
  rcases Nat.lt_or_ge n 30 with hlt | hge
  · rcases Nat.lt_or_ge n 10 with hlt | hge
    · rw [readTwo_eq_nil (by omega) (by simp; omega), readTwo_eq_nil (by omega) (by simp; omega),
        readTwo (by omega) (by simp; omega) (digitBetween_units (by simp; omega))]
      rfl
    · rw [readTwo_eq_nil (by omega) (by simp; omega),
        readTwo (by omega) (by simp; omega) (anyDigit_units n rest)]
      rfl
  · rw [readTwo (by omega) (by simp; omega) (digitBetween_units (by simp; omega))]
    rfl

lemma readsFirst_hour (hn : n < 24) : ReadsFirst .hour (twoChars n ++ rest) n rest := by
  rcases Nat.lt_or_ge n 20 with hlt | hge
  · rw [ReadsFirst, Part.readings, readTwo_eq_nil (by omega) (by simp; omega),
      readTwo (by omega) (by simp; omega) (anyDigit_units n rest)]
    rfl
  · rw [ReadsFirst, Part.readings,
      readTwo (by omega) (by simp; omega) (digitBetween_units (by simp; omega))]
    rfl

lemma readsFirst_minute (hn : n < 60) : ReadsFirst .minute (twoChars n ++ rest) n rest := by
  rw [ReadsFirst, Part.readings, readTwo (by omega) (by simp; omega) (anyDigit_units n rest)]
  rfl

lemma readsFirst_second (hn : n < 60) : ReadsFirst .second (twoChars n ++ rest) n rest := by
  rw [ReadsFirst, Part.readings, readTwo_eq_nil (by omega) (by simp; omega),
    readTwo (by omega) (by simp; omega) (anyDigit_units n rest)]
  rfl

end TwoDigits

lemma readsFirst_mark (c : Char) (rest : List Char) :
    ReadsFirst (.mark c) (c :: rest) 0 rest := by
  rw [ReadsFirst, Part.readings, if_pos rfl]
  rfl

lemma isBlank_digitChar {k : Nat} (h : k < 10) : Text.isBlank (digitChar k) = false := by
  interval_cases k <;> rfl

lemma readsFirst_blanks {n : Nat} (hn : n < 100) (rest : List Char) :
    ReadsFirst .blanks (' ' :: (twoChars n ++ rest)) 0 (twoChars n ++ rest) := by
  have hdigit := isBlank_digitChar (show n / 10 < 10 by omega)
  have hstop : blankRuns (twoChars n ++ rest) = [] := by
    simp only [twoChars, List.cons_append, blankRuns, hdigit, Bool.false_eq_true, if_false]
  rw [ReadsFirst, Part.readings, blankRuns, if_pos (by rfl), hstop]
  rfl

/-! ## Whole texts -/

lemma readParts_cons {part : Part} {parts : List Part} {text rest final : List Char} {n : Nat}
    {ns : List Nat} (h : ReadsFirst part text n rest)
    (hrest : readParts parts rest = some (ns, final)) :
    readParts (part :: parts) text = some (n :: ns, final) := by
  obtain ⟨others, hothers⟩ := List.head?_eq_some_iff.1 h
  rw [readParts, hothers, List.findSome?_cons]
  simp only [hrest, Option.map_some]

lemma toList_storageText {t : Timestamp} (ht : t.Valid) :
    t.storageText.toList =
      (Nat.repr t.date.year).toList ++ '-' :: (twoChars t.date.month ++ '-' ::
        (twoChars t.date.day ++ ' ' :: (twoChars t.hour ++ ':' :: (twoChars t.minute ++ ':' ::
          (twoChars t.second ++ []))))) := by
  obtain ⟨⟨-, -, -, hmonth, -, hday⟩, hhour, hminute, hsecond, -⟩ := ht
  have hlength := Date.monthLength_le t.date.year t.date.month
  simp [Timestamp.storageText, toList_padded (show t.date.month < 100 by omega),
    toList_padded (show t.date.day < 100 by omega), toList_padded (show t.hour < 100 by omega),
    toList_padded (show t.minute < 100 by omega), toList_padded (show t.second < 100 by omega)]

/-- A valid clock reading from the year 1000 on is read back from its text without its
microseconds. -/
lemma readTemporal?_storageText {t : Timestamp} (ht : t.Valid) (hyear : 1000 ≤ t.date.year)
    (hoffset : t.offset = none) : readTemporal? t.storageText = some t.toSecond := by
  have htext := toList_storageText ht
  have hvalid : t.toSecond.Valid := ⟨ht.1, ht.2.1, ht.2.2.1, ht.2.2.2.1, show 0 < 1000000 by decide⟩
  have hlength := Date.monthLength_le t.date.year t.date.month
  obtain ⟨⟨-, hyear', hmonth, hmonth', hday, hday'⟩, hhour, hminute, hsecond, -⟩ := ht
  have hparts : readParts (dateParts ++ .blanks :: timeParts) t.storageText.toList =
      some ([t.date.year, 0, t.date.month, 0, t.date.day, 0, t.hour, 0, t.minute, 0, t.second],
        []) := by
    rw [htext]
    -- each part leaves what the next one starts with
    refine readParts_cons (readsFirst_year hyear hyear' _) ?_
    refine readParts_cons (readsFirst_mark _ _) ?_
    refine readParts_cons (readsFirst_month hmonth hmonth') ?_
    refine readParts_cons (readsFirst_mark _ _) ?_
    refine readParts_cons (readsFirst_day hday (hday'.trans hlength)) ?_
    refine readParts_cons (readsFirst_blanks (by omega) _) ?_
    refine readParts_cons (readsFirst_hour hhour) ?_
    refine readParts_cons (readsFirst_mark _ _) ?_
    refine readParts_cons (readsFirst_minute hminute) ?_
    refine readParts_cons (readsFirst_mark _ _) ?_
    refine readParts_cons (readsFirst_second hsecond) ?_
    rfl
  have hform : readForm? t.storageText.toList (dateParts ++ .blanks :: timeParts) =
      some t.toSecond := by
    have heq : (⟨t.date, t.hour, t.minute, t.second, 0, none⟩ : Timestamp) = t.toSecond := by
      rw [Timestamp.toSecond, hoffset]
    rw [readForm?, hparts]
    simp only [ofNumbers?, heq, if_pos hvalid]
  rw [readTemporal?, temporalForms, List.findSome?_cons, hform]

end Codec
end DocTable
