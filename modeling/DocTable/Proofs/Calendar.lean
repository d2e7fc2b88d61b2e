/-
# Days and their numbers

Every day number of the years 1 to 9999 is the number of exactly the date that is computed from it,
and that date is one of the calendar. So a point in time with an offset, moved to offset zero, is a
valid clock reading of the same instant.

Days have greater numbers the later they are: dates compare by year, month and day, and clock
readings by these and the parts of the time of day.
-/
import DocTable.Calendar
import Mathlib.Algebra.BigOperators.Group.List.Basic
import Mathlib.Algebra.Order.BigOperators.Group.List
import Mathlib.Algebra.Order.Ring.Nat
import Mathlib.Data.List.Lex

namespace DocTable

namespace Date

/-! ## Years -/

/-- The parts into which a day number is taken apart: cycles of four centuries, centuries, cycles of
four years, years and days. Only the last year of a cycle has a day more, and the last cycle of a
century only if the century is the last of its cycle. -/
lemma yearAndDay_spec (n : Nat) :
    ∃ cycles centuries fours ones day,
      yearAndDay n = (cycles * 400 + centuries * 100 + fours * 4 + ones + 1, day) ∧
      n = 146097 * cycles + 36524 * centuries + 1461 * fours + 365 * ones + day ∧
      centuries ≤ 3 ∧ fours ≤ 24 ∧ ones ≤ 3 ∧ day ≤ 365 ∧
      (day = 365 → ones = 3 ∧ (fours = 24 → centuries = 3)) := by
  -- the parts are quotients that are cut off at their bounds, so all of this is linear
  refine ⟨_, _, _, _, _, rfl, ?_, ?_, ?_, ?_, ?_, ?_⟩ <;> omega

/-- The year of a day number starts as many days before it as `yearAndDay` says. -/
lemma daysBeforeYear_yearAndDay (n : Nat) :
    daysBeforeYear (yearAndDay n).1 + (yearAndDay n).2 = n := by
  obtain ⟨cycles, centuries, fours, ones, day, heq, hn, hcenturies, hfours, hones, -⟩ :=
    yearAndDay_spec n
  simp only [heq, daysBeforeYear, Nat.add_sub_cancel]
  omega

/-- The day of the year is one of the year, the leap day included. -/
lemma snd_yearAndDay_lt (n : Nat) :
    (yearAndDay n).2 < 365 + if isLeap (yearAndDay n).1 then 1 else 0 := by
  obtain ⟨cycles, centuries, fours, ones, day, heq, -, hcenturies, hfours, hones, hday, hlast⟩ :=
    yearAndDay_spec n
  rw [heq]
  split_ifs with h
  · omega
  · -- day 365 is only left over in the last year of a cycle, and that is a leap year
    simp only [isLeap, Bool.and_eq_true, Bool.or_eq_true, beq_iff_eq, bne_iff_ne] at h
    omega

lemma fst_yearAndDay_pos (n : Nat) : 1 ≤ (yearAndDay n).1 := by
  obtain ⟨cycles, centuries, fours, ones, day, heq, -⟩ := yearAndDay_spec n
  rw [heq]
  omega

lemma fst_yearAndDay_le {n : Nat} (h : n < dayCount) : (yearAndDay n).1 ≤ 9999 := by
  obtain ⟨cycles, centuries, fours, ones, day, heq, hn, hcenturies, hfours, hones, -⟩ :=
    yearAndDay_spec n
  rw [heq]
  rw [dayCount] at h
  simp only
  omega

/-! ## Months -/

lemma sum_monthLengths (year : Nat) :
    (monthLengths year).sum = 365 + if isLeap year then 1 else 0 := by
  simp only [monthLengths, List.sum_cons, List.sum_nil]
  split_ifs <;> rfl

lemma monthLength_le (year month : Nat) : monthLength year month ≤ 31 := by
  have hall : ∀ n ∈ monthLengths year, n ≤ 31 := by
    simp only [monthLengths, List.forall_mem_cons]
    split_ifs <;> simp
  rw [monthLength]
  split_ifs
  · omega
  · cases h : (monthLengths year)[month - 1]? with
    | none => exact Nat.zero_le _
    | some n => exact hall n (List.mem_of_getElem? h)

/-- The month that holds a day is found by passing over the months before it. -/
lemma monthAndDay_spec (month : Nat) {lengths : List Nat} {rest : Nat} (h : rest < lengths.sum) :
    ∃ i day, monthAndDay month lengths rest = (month + i, day + 1) ∧ i < lengths.length ∧
      day < (lengths[i]?).getD 0 ∧ (lengths.take i).sum + day = rest := by
  induction lengths generalizing month rest with
  | nil => simp at h
  | cons length lengths ih =>
    rw [List.sum_cons] at h
    rw [monthAndDay]
    split_ifs with hrest
    · exact ⟨0, rest, rfl, by simp, by simpa using hrest, by simp⟩
    · -- the first month is passed over with all of its days
      have hlt : rest - length < lengths.sum := by omega
      obtain ⟨i, day, heq, hi, hday, hsum⟩ := ih (month + 1) hlt
      refine ⟨i + 1, day, by rw [heq, Nat.add_assoc, Nat.add_comm 1], by simpa using hi,
        by simpa using hday, ?_⟩
      rw [List.take_succ_cons, List.sum_cons]
      omega

lemma daysBeforeMonth_eq_sum (year month : Nat) :
    daysBeforeMonth year month = ((monthLengths year).take (month - 1)).sum :=
  List.sum_eq_foldl.symm

/-! ## Dates -/

/-- A day number gives the date in a year and a month that hold it. -/
lemma ofDayNumber_spec (n : Nat) :
    ∃ i day, ofDayNumber n = ⟨(yearAndDay n).1, i + 1, day + 1⟩ ∧ i < 12 ∧
      day < monthLength (yearAndDay n).1 (i + 1) ∧
      daysBeforeMonth (yearAndDay n).1 (i + 1) + day = (yearAndDay n).2 := by
  have hlt : (yearAndDay n).2 < (monthLengths (yearAndDay n).1).sum := by
    rw [sum_monthLengths]
    exact snd_yearAndDay_lt n
  obtain ⟨i, day, heq, hi, hday, hsum⟩ := monthAndDay_spec 1 hlt
  refine ⟨i, day, ?_, hi, ?_, ?_⟩
  · simp only [ofDayNumber, heq, Nat.add_comm 1]
  · rw [monthLength, if_neg (Nat.succ_ne_zero i)]
    exact hday
  · rw [daysBeforeMonth_eq_sum]
    exact hsum

/-- A date has the number from which it was computed. -/
lemma dayNumber_ofDayNumber (n : Nat) : (ofDayNumber n).dayNumber = n := by
  obtain ⟨i, day, heq, -, -, hsum⟩ := ofDayNumber_spec n
  have hyear := daysBeforeYear_yearAndDay n
  rw [heq, dayNumber]
  simp only [Nat.add_sub_cancel]
  omega

/-- The day numbers below `dayCount` are those of dates of the calendar. -/
lemma valid_ofDayNumber {n : Nat} (h : n < dayCount) : (ofDayNumber n).Valid := by
  obtain ⟨i, day, heq, hi, hday, -⟩ := ofDayNumber_spec n
  rw [heq]
  exact ⟨fst_yearAndDay_pos n, fst_yearAndDay_le h, Nat.succ_pos i, hi, Nat.succ_pos day, hday⟩

/-! ## Order -/

/-- A year ends where the next one starts. -/
lemma daysBeforeYear_succ {year : Nat} (hyear : 1 ≤ year) :
    daysBeforeYear (year + 1) = daysBeforeYear year + 365 + if isLeap year then 1 else 0 := by
  obtain ⟨past, rfl⟩ : ∃ past, year = past + 1 := ⟨year - 1, by omega⟩
  have hleap : isLeap (past + 1) = true ↔
      4 ∣ past + 1 ∧ (¬100 ∣ past + 1 ∨ 400 ∣ past + 1) := by
    simp [isLeap, Nat.dvd_iff_mod_eq_zero]
  have hfour : 100 ∣ past + 1 → 4 ∣ past + 1 := by omega
  have hcentury : 400 ∣ past + 1 → 100 ∣ past + 1 := by omega
  have hless : past / 100 ≤ past / 4 := by omega
  simp only [daysBeforeYear, Nat.add_sub_cancel, Nat.succ_div, hleap]
  by_cases h400 : 400 ∣ past + 1
  · have h100 := hcentury h400
    have h4 := hfour h100
    simp only [h4, h100, h400, if_true, or_true, and_self]
    omega
  · by_cases h100 : 100 ∣ past + 1
    · have h4 := hfour h100
      simp only [h4, h100, h400, if_true, if_false, or_false, not_true, and_false]
      omega
    · by_cases h4 : 4 ∣ past + 1
      · simp only [h4, h100, h400, if_true, if_false, or_false, not_false_eq_true, and_self]
        omega
      · simp only [h4, h100, h400, if_false, false_and]
        omega

lemma daysBeforeYear_le {year later : Nat} (hyear : 1 ≤ year) (h : year ≤ later) :
    daysBeforeYear year ≤ daysBeforeYear later := by
  induction later, h using Nat.le_induction with
  | base => exact le_rfl
  | succ later h ih =>
    rw [daysBeforeYear_succ (hyear.trans h)]
    omega

/-- A year ends before a later one starts. -/
lemma daysBeforeYear_add_le {year later : Nat} (hyear : 1 ≤ year) (h : year < later) :
    daysBeforeYear year + 365 + (if isLeap year then 1 else 0) ≤ daysBeforeYear later := by
  rw [← daysBeforeYear_succ hyear]
  exact daysBeforeYear_le (by omega) h

/-- The days of the months up to one of them are those of a part of the year. -/
lemma daysBeforeMonth_add_monthLength (year : Nat) {month : Nat} (hmonth : 1 ≤ month) :
    daysBeforeMonth year month + monthLength year month =
      ((monthLengths year).take month).sum := by
  have hpast : month = month - 1 + 1 := by omega
  rw [daysBeforeMonth_eq_sum, monthLength, if_neg (by omega)]
  conv_rhs => rw [hpast, List.take_add_one, List.sum_append]
  cases (monthLengths year)[month - 1]? <;> simp

/-- A month ends before a later one starts. -/
lemma daysBeforeMonth_add_le (year : Nat) {month later : Nat} (hmonth : 1 ≤ month)
    (h : month < later) :
    daysBeforeMonth year month + monthLength year month ≤ daysBeforeMonth year later := by
  have hsub : ((monthLengths year).take month).Sublist ((monthLengths year).take (later - 1)) :=
    List.take_sublist_take_left (by omega)
  rw [daysBeforeMonth_add_monthLength year hmonth, daysBeforeMonth_eq_sum]
  exact hsub.sum_le_sum fun _ _ => Nat.zero_le _

/-- A month ends with its year at the latest. -/
lemma daysBeforeMonth_add_le_year (year : Nat) {month : Nat} (hmonth : 1 ≤ month) :
    daysBeforeMonth year month + monthLength year month ≤ 365 + if isLeap year then 1 else 0 := by
  rw [daysBeforeMonth_add_monthLength year hmonth, ← sum_monthLengths]
  exact (List.take_sublist _ _).sum_le_sum fun _ _ => Nat.zero_le _

/-- A date before another one by year, month and day has a smaller number. -/
lemma dayNumber_lt {d e : Date} (hd : d.Valid) (he : e.Valid)
    (h : [d.year, d.month, d.day] < [e.year, e.month, e.day]) : d.dayNumber < e.dayNumber := by
  obtain ⟨hyear, -, hmonth, -, hday, hlast⟩ := hd
  obtain ⟨-, -, -, -, hday', -⟩ := he
  simp only [List.cons_lt_cons_iff, List.lt_irrefl, and_false, or_false] at h
  simp only [dayNumber]
  rcases h with h | ⟨hyears, h | ⟨hmonths, h⟩⟩
  · have hend := daysBeforeYear_add_le hyear h
    have hwithin := daysBeforeMonth_add_le_year d.year hmonth
    omega
  · rw [hyears] at hlast ⊢
    have hend := daysBeforeMonth_add_le e.year hmonth h
    omega
  · rw [hyears, hmonths]
    omega

end Date

namespace Timestamp

/-- The time of day of a clock reading after its date: month, day, hour, minute and second. -/
def afterYear (t : Timestamp) : List Nat :=
  [t.date.month, t.date.day, t.hour, t.minute, t.second]

/-- A clock reading before another one by its parts is so by its seconds. -/
lemma clockSeconds_lt {t u : Timestamp} (ht : t.Valid) (hu : u.Valid)
    (h : t.date.year :: t.afterYear < u.date.year :: u.afterYear) :
    t.clockSeconds < u.clockSeconds := by
  obtain ⟨hdate, hhour, hminute, hsecond, -⟩ := ht
  obtain ⟨hdate', hhour', hminute', hsecond', -⟩ := hu
  have hday : [t.date.year, t.date.month, t.date.day] < [u.date.year, u.date.month, u.date.day] →
      t.clockSeconds < u.clockSeconds := by
    intro hlt
    have hnumber := Date.dayNumber_lt hdate hdate' hlt
    simp only [clockSeconds, secondOfDay]
    omega
  simp only [afterYear, List.cons_lt_cons_iff, List.lt_irrefl, and_false, or_false] at h hday
  rcases h with h | ⟨hyears, h | ⟨hmonths, h | ⟨hdays, h⟩⟩⟩
  · exact hday (.inl h)
  · exact hday (.inr ⟨hyears, .inl h⟩)
  · exact hday (.inr ⟨hyears, .inr ⟨hmonths, h⟩⟩)
  · have hsame : t.date.dayNumber = u.date.dayNumber := by
      simp only [Date.dayNumber, hyears, hmonths, hdays]
    simp only [clockSeconds, secondOfDay, hsame]
    omega

lemma clockSeconds_congr {t u : Timestamp} (hyears : t.date.year = u.date.year)
    (h : t.afterYear = u.afterYear) : t.clockSeconds = u.clockSeconds := by
  simp only [afterYear, List.cons.injEq, and_true] at h
  obtain ⟨hmonths, hdays, hhours, hminutes, hseconds⟩ := h
  simp only [clockSeconds, secondOfDay, Date.dayNumber, hyears, hmonths, hdays, hhours, hminutes,
    hseconds]

/-- Clock readings compare by their parts, the year first. -/
lemma clockSeconds_lt_iff {t u : Timestamp} (ht : t.Valid) (hu : u.Valid) :
    t.clockSeconds < u.clockSeconds ↔
      t.date.year < u.date.year ∨ t.date.year = u.date.year ∧ t.afterYear < u.afterYear := by
  rw [← List.cons_lt_cons_iff]
  constructor
  · intro h
    by_contra hnot
    rcases lt_or_eq_of_le (not_lt.1 hnot) with hlt | heq
    · exact absurd (clockSeconds_lt hu ht hlt) (by omega)
    · obtain ⟨hyears, hrest⟩ := List.cons.inj heq
      have hsame := clockSeconds_congr hyears hrest
      omega
  · exact clockSeconds_lt ht hu

lemma valid_midnight {d : Date} (h : d.Valid) : (midnight d).Valid :=
  ⟨h, by simp [midnight], by simp [midnight], by simp [midnight], by simp [midnight]⟩

lemma valid_ofSeconds {n micro : Nat} (hn : n < Date.dayCount * 86400) (hmicro : micro < 1000000) :
    (ofSeconds n micro).Valid := by
  have hday : n / 86400 < Date.dayCount := Nat.div_lt_of_lt_mul (by rwa [Nat.mul_comm])
  refine ⟨Date.valid_ofDayNumber hday, ?_, ?_, ?_, hmicro⟩
  all_goals
    simp only [ofSeconds]
    omega

lemma clockSeconds_ofSeconds (n micro : Nat) : (ofSeconds n micro).clockSeconds = n := by
  simp only [clockSeconds, secondOfDay, ofSeconds, Date.dayNumber_ofDayNumber]
  omega

/-- A clock reading at offset zero of a point in time is valid and reads the same instant. -/
lemma utc?_spec {t reading : Timestamp} (ht : t.Valid) (h : t.utc? = some reading) :
    reading.Valid ∧ reading.offset = none ∧ (reading.clockSeconds : Int) = t.utcSeconds ∧
      reading.micro = t.micro := by
  rw [utc?] at h
  split at h
  · rename_i hoffset
    obtain rfl := Option.some.inj h
    exact ⟨ht, hoffset, by simp [utcSeconds, hoffset], rfl⟩
  · simp only [Option.ite_none_right_eq_some, Option.some.injEq] at h
    obtain ⟨⟨hpos, hlt⟩, rfl⟩ := h
    refine ⟨valid_ofSeconds (by omega) ht.2.2.2.2, rfl, ?_, rfl⟩
    rw [clockSeconds_ofSeconds, Int.toNat_of_nonneg hpos]

end Timestamp
end DocTable
