/-
# Reading quoted text back

A text that has been written as a JSON string is read back as it was, whatever stands in it: quotes,
backslashes, control characters, characters past the first plane and halves of pairs. Each character
is one part of the string, and no two of the parts that writing produces are joined in reading.
-/
import DocTable.Json.Printer
import DocTable.Json.Reader
import Mathlib.Tactic.Common

namespace DocTable
namespace Json

/-- The control characters that have an escape of one letter. -/
def letteredControls : List Char := ['\n', '\r', '\t', '\x08', '\x0c']

/-- The code point, or the half of a pair, that a character stands for. -/
def pointOf (c : Char) : Nat := (Text.half? c).getD c.toNat

/-- The part of a string that a character is read as: only the other control characters are spelled
by their numbers. -/
def partOf (c : Char) : Part :=
  if c.toNat < 0x20 ∧ c ∉ letteredControls then .unit c.toNat else .point (pointOf c)

/-! ## One character -/

lemma pointOf_of_lt {c : Char} (h : c.toNat < 0x80) : pointOf c = c.toNat := by
  have hsmall : ¬(0xd800 + Text.halfShift ≤ c.toNat ∧ c.toNat < 0xe000 + Text.halfShift) := by
    simp only [Text.halfShift]
    omega
  rw [pointOf, Text.half?, if_neg hsmall]
  rfl

/-- A character with an escape of one letter. -/
lemma readParts_letter {e c : Char} (he : e ≠ 'u') (h : letterEscape? e = some c)
    (hc : partOf c = .point (pointOf c)) (hlow : c.toNat < 0x80) (rest : List Char) :
    readParts ('\x5c' :: e :: rest) =
      (readParts rest).map fun found => (partOf c :: found.1, found.2) := by
  rw [readParts.eq_4 _ _ (by rintro a b c d r rfl; exact absurd rfl he), h, hc, pointOf_of_lt hlow]
  cases readParts rest <;> rfl

lemma hexUnit?_hexDigits :
    ∀ n < 0x20, ∃ a b c d, Text.hexDigits 4 n = [a, b, c, d] ∧ hexUnit? a b c d = some n := by
  intro n hn
  refine ⟨_, _, _, _, rfl, ?_⟩
  revert n
  decide

/-- A character that is spelled by its number. -/
lemma readParts_numbered {n : Nat} (h : n < 0x20) (rest : List Char) :
    readParts ('\x5c' :: 'u' :: Text.hexDigits 4 n ++ rest) =
      (readParts rest).map fun found => (.unit n :: found.1, found.2) := by
  obtain ⟨a, b, c, d, hdigits, hunit⟩ := hexUnit?_hexDigits n h
  simp only [hdigits, List.cons_append, List.nil_append, readParts, hunit]
  cases readParts rest <;> rfl

/-- A character that is written as it is. -/
lemma readParts_plain {c : Char} (hquote : c ≠ '\x22') (hslash : c ≠ '\x5c') (h : ¬c.toNat < 0x20)
    (rest : List Char) :
    readParts (c :: rest) =
      (readParts rest).map fun found => (.point (pointOf c) :: found.1, found.2) := by
  rw [readParts.eq_5 c rest hquote (fun _ _ _ _ _ hc _ => hslash hc) (fun _ _ hc _ => hslash hc)]
  simp [h, hslash, pointOf]

/-- Reading what a character has been written as gives its part. -/
lemma readParts_escapedChar (c : Char) (rest : List Char) :
    readParts (escapedChar c ++ rest) =
      (readParts rest).map fun found => (partOf c :: found.1, found.2) := by
  unfold escapedChar
  split_ifs with hquote hslash hn hr ht hb hf hlow
  · subst hquote; exact readParts_letter (by decide) rfl rfl (by decide) rest
  · subst hslash; exact readParts_letter (by decide) rfl rfl (by decide) rest
  · subst hn; exact readParts_letter (by decide) rfl rfl (by decide) rest
  · subst hr; exact readParts_letter (by decide) rfl rfl (by decide) rest
  · subst ht; exact readParts_letter (by decide) rfl rfl (by decide) rest
  · subst hb; exact readParts_letter (by decide) rfl rfl (by decide) rest
  · subst hf; exact readParts_letter (by decide) rfl rfl (by decide) rest
  · have hpart : partOf c = .unit c.toNat := by
      simp [partOf, letteredControls, hn, hr, ht, hb, hf, hlow]
    rw [hpart]
    exact readParts_numbered hlow rest
  · have hpart : partOf c = .point (pointOf c) := by simp [partOf, hlow]
    rw [hpart]
    exact readParts_plain hquote hslash hlow rest

/-! ## A whole text -/

lemma readParts_quoted (text rest : List Char) :
    readParts (text.flatMap escapedChar ++ '\x22' :: rest) = some (text.map partOf, rest) := by
  induction text with
  | nil => rfl
  | cons c text ih =>
    rw [List.flatMap_cons, List.append_assoc, readParts_escapedChar, ih]
    rfl

lemma number_partOf (c : Char) : (partOf c).number = pointOf c := by
  unfold partOf
  split_ifs with h
  · rw [pointOf_of_lt (Nat.lt_trans h.1 (by decide)), Part.number]
  · rw [Part.number]

/-- A part that is not the escape of a half. -/
def Part.IsWhole : Part → Prop
  | unit number => number < 0x20
  | point _ => True

lemma isWhole_partOf (c : Char) : (partOf c).IsWhole := by
  unfold partOf
  split_ifs with h
  · exact h.1
  · trivial

/-- Parts none of which is the escape of a half are not joined. -/
lemma partPoints_of_isWhole {parts : List Part} (h : ∀ part ∈ parts, part.IsWhole) :
    partPoints parts = parts.map Part.number := by
  induction parts with
  | nil => rfl
  | cons part parts ih =>
    have hrest := ih fun p hp => h p (List.mem_cons_of_mem _ hp)
    have hpart : part.IsWhole := h part List.mem_cons_self
    rw [List.map_cons, ← hrest]
    -- only the escape of a high half is joined with the part behind it
    match part, parts with
    | .unit high, .unit low :: parts =>
      have hhigh : Text.isHighHalf high = false := by
        simp only [Part.IsWhole] at hpart
        simp only [Text.isHighHalf, Bool.and_eq_false_iff, decide_eq_false_iff_not]
        omega
      rw [partPoints, hhigh]
      simp [Part.number]
    | .unit _, [] => rw [partPoints.eq_2 _ _ (by simp)]
    | .unit _, .point _ :: _ => rw [partPoints.eq_2 _ _ (by simp)]
    | .point _, _ => rw [partPoints.eq_2 _ _ (by simp)]

lemma partPoints_map_partOf (text : List Char) :
    partPoints (text.map partOf) = text.map pointOf := by
  rw [partPoints_of_isWhole (by simp [isWhole_partOf]), List.map_map]
  exact List.map_congr_left fun c _ => number_partOf c

lemma isLone_toNat (c : Char) : Text.isLone c.toNat = false := by
  have hvalid : c.toNat.isValidChar := c.valid
  simp only [Nat.isValidChar] at hvalid
  simp only [Text.isLone, Text.isHighHalf, Text.isLowHalf, Bool.or_eq_false_iff,
    Bool.and_eq_false_iff, decide_eq_false_iff_not]
  omega

/-- A half is kept as the character that stands for it. -/
lemma kept_half {c : Char} {unit : Nat} (h : Text.half? c = some unit) : Text.kept unit = [c] := by
  rw [Text.half?] at h
  split_ifs at h with hrange
  have hback : unit + Text.halfShift = c.toNat := by
    rw [← Option.some.inj h]
    exact Nat.sub_add_cancel (Nat.le_trans (Nat.le_add_left _ _) hrange.1)
  have hfirst : 0xd800 ≤ unit := Nat.le_of_add_le_add_right (hback.symm ▸ hrange.1)
  have hlast : unit < 0xe000 := Nat.lt_of_add_lt_add_right (hback.symm ▸ hrange.2)
  have hlone : Text.isLone unit = true := by
    simp only [Text.isLone, Text.isHighHalf, Text.isLowHalf, Bool.or_eq_true, Bool.and_eq_true,
      decide_eq_true_eq]
    omega
  rw [Text.kept, if_pos hlone, Text.ofHalf, hback, Char.ofNat_toNat]

/-- The code point or the half that a character stands for is kept as that character. -/
lemma kept_pointOf (c : Char) : Text.kept (pointOf c) = [c] := by
  unfold pointOf
  cases h : Text.half? c with
  | none =>
    -- a character that is no half is kept as its code point
    have hhalf : Text.isHalf c = false := by rw [Text.isHalf, h, Option.isSome_none]
    rw [Option.getD_none, Text.kept, isLone_toNat, Text.keptPoint, Char.ofNat_toNat, hhalf]
    rfl
  | some unit => exact kept_half h

lemma ofPoints_map_pointOf (text : List Char) : Text.ofPoints (text.map pointOf) = text := by
  induction text with
  | nil => rfl
  | cons c text ih => simp_all [Text.ofPoints, kept_pointOf]

/-- Reading a text that has been written as a JSON string gives the text. -/
lemma readString_quote (s : String) (rest : List Char) :
    readString (s.toList.flatMap escapedChar ++ '\x22' :: rest) = .ok (s, rest) := by
  rw [readString, readParts_quoted]
  simp [partPoints_map_partOf, ofPoints_map_pointOf]

end Json
end DocTable
