/-
# Reading words and integers back

The JSON texts of values that hold no others, read in front of whatever may follow a value: the end
of the text, a comma or a closing mark. An integer of too many digits is refused.
-/
import DocTable.Proofs.Json.Quoting
import DocTable.Proofs.Text.Digits
import Mathlib.Data.Nat.Notation

namespace DocTable
namespace Json

open Text (isDigit_of_mem_decimal head?_decimal_ne ne_of_isDigit exists_cons_decimal)

/-- What may follow a value in a JSON text without spaces. -/
def EndsValue (rest : List Char) : Prop := ∀ c ∈ rest.head?, c ∈ [',', ']', '\x7d']

lemma endsValue_nil : EndsValue [] := by simp [EndsValue]

lemma endsValue_cons {c : Char} (h : c ∈ [',', ']', '\x7d']) (rest : List Char) :
    EndsValue (c :: rest) := by
  simpa [EndsValue] using h

/-! ## Integers -/

lemma takeWhile_isDigit {digits rest : List Char} (hd : ∀ c ∈ digits, c.isDigit)
    (hr : EndsValue rest) : (digits ++ rest).takeWhile Char.isDigit = digits := by
  rw [List.takeWhile_append_of_pos hd]
  cases rest with
  | nil => simp
  | cons c rest =>
    have hc : c.isDigit = false := by
      have hmem := hr c (by simp)
      simp only [List.mem_cons, List.not_mem_nil, or_false] at hmem
      rcases hmem with rfl | rfl | rfl <;> decide
    simp [hc]

lemma dropWhile_isDigit {digits rest : List Char} (hd : ∀ c ∈ digits, c.isDigit)
    (hr : EndsValue rest) : (digits ++ rest).dropWhile Char.isDigit = rest := by
  have happ := List.takeWhile_append_dropWhile (p := Char.isDigit) (l := digits ++ rest)
  rw [takeWhile_isDigit hd hr] at happ
  exact List.append_cancel_left happ

lemma readWhole_decimal (n : Nat) {rest : List Char} (hr : EndsValue rest) :
    readWhole (Nat.toDigits 10 n ++ rest) = some (Nat.toDigits 10 n, rest) := by
  rcases Nat.eq_zero_or_pos n with rfl | hn
  · rfl
  · have hall := isDigit_of_mem_decimal (n := n)
    have hhead := head?_decimal_ne hn
    cases hds : Nat.toDigits 10 n with
    | nil => exact absurd hds Nat.toDigits_ne_nil
    | cons c digits =>
      rw [hds] at hall hhead
      have hc : c ≠ '0' := by simpa using hhead
      have hrest : ∀ d ∈ digits, d.isDigit := fun d hd => hall d (List.mem_cons_of_mem _ hd)
      rw [List.cons_append, readWhole.eq_2 _ _ (fun h => hc h), if_pos (hall c List.mem_cons_self),
        takeWhile_isDigit hrest hr, dropWhile_isDigit hrest hr]

lemma digitsValue_decimal (n : Nat) : digitsValue (Nat.toDigits 10 n) = n := by
  have hfold := Nat.ofDigitChars_ten_toDigits (n := n)
  rw [Nat.ofDigitChars_eq_foldl] at hfold
  rw [digitsValue, Number.ofDigits, List.foldl_map]
  exact hfold

lemma readFraction_of_endsValue {rest : List Char} (hr : EndsValue rest) :
    readFraction rest = ([], rest) := by
  cases rest with
  | nil => rfl
  | cons c rest =>
    rw [readFraction.eq_2 _ (by rintro r h; cases h; exact absurd (hr '.' rfl) (by decide))]

lemma readExponent_of_endsValue {rest : List Char} (hr : EndsValue rest) :
    readExponent rest = (none, rest) := by
  cases rest with
  | nil => rfl
  | cons c rest =>
    -- what follows a value starts no exponent
    have hc : ¬(c = 'e' ∨ c = 'E') := by
      rintro (rfl | rfl) <;> exact absurd (hr _ rfl) (by decide)
    simp only [readExponent, if_neg hc]

lemma digitLimit_lt_iff (n : Nat) :
    Number.digitLimit < (Nat.toDigits 10 n).length ↔ Number.isTooLong n = true := by
  have hlen := Nat.length_toDigits_le_iff (b := 10) (n := n) (k := Number.digitLimit) (by decide)
    (by decide)
  rw [Number.isTooLong, decide_eq_true_eq, Int.natAbs_natCast, ← Nat.not_le, hlen, Nat.not_lt,
    Nat.pow_eq]

/-- An integer with its sign. -/
def signedInt (negative : Bool) (n : Nat) : Int := if negative then -n else n

lemma readMagnitude_decimal (negative : Bool) (n : Nat) {rest : List Char} (hr : EndsValue rest) :
    readMagnitude negative (Nat.toDigits 10 n ++ rest) =
      if Number.isTooLong n then .error .longInteger
      else .ok (.int (signedInt negative n), rest) := by
  simp only [readMagnitude, readWhole_decimal n hr, readFraction_of_endsValue hr,
    readExponent_of_endsValue hr, digitsValue_decimal, digitLimit_lt_iff, List.isEmpty_nil,
    Option.isNone_none, Bool.and_self, if_true, signedInt]

/-! ## Words -/

/-- A number starts no word: the only word with a sign has a letter after it. -/
lemma readWord_of_isDigit {c : Char} (hc : c.isDigit) (rest : List Char) :
    readWord (c :: rest) = none ∧ readWord ('-' :: c :: rest) = none := by
  have hne : ∀ d : Char, d.isDigit = false → d ≠ c := fun d hd => (ne_of_isDigit hc hd).symm
  constructor <;> simp [readWord, words, Text.afterWord?, hne]

lemma readScalar_of_isDigit {c : Char} (hc : c.isDigit) (rest : List Char) :
    readScalar (c :: rest) = readMagnitude false (c :: rest) := by
  have hquote : c ≠ '\x22' := ne_of_isDigit hc (by decide)
  have hminus : c ≠ '-' := ne_of_isDigit hc (by decide)
  rw [readScalar.eq_3 _ (fun _ h => hquote (List.cons.inj h).1)
    (fun _ h => hminus (List.cons.inj h).1), (readWord_of_isDigit hc rest).1]

lemma readScalar_minus {c : Char} (hc : c.isDigit) (rest : List Char) :
    readScalar ('-' :: c :: rest) = readMagnitude true (c :: rest) := by
  rw [readScalar.eq_2, (readWord_of_isDigit hc rest).2]

lemma readScalar_null (rest : List Char) :
    readScalar ("null".toList ++ rest) = .ok (.null, rest) := rfl

lemma readScalar_bool (b : Bool) (rest : List Char) :
    readScalar ((if b then "true" else "false").toList ++ rest) = .ok (.bool b, rest) := by
  cases b <;> rfl

lemma readScalar_text (s : String) (rest : List Char) :
    readScalar ((quote s).toList ++ rest) = .ok (.text s, rest) := by
  have hquote : (quote s).toList ++ rest =
      '\x22' :: (s.toList.flatMap escapedChar ++ '\x22' :: rest) := by
    simp [quote]
  rw [hquote, readScalar, readString_quote]
  rfl

/-- Reading the text of an integer gives the integer, unless it has too many digits. -/
lemma readScalar_int (n : Int) {rest : List Char} (hr : EndsValue rest) :
    readScalar ((Int.repr n).toList ++ rest) =
      if Number.isTooLong n then .error .longInteger else .ok (.int n, rest) := by
  cases n with
  | ofNat m =>
    obtain ⟨c, digits, hds, hc⟩ := exists_cons_decimal m
    have hread := readMagnitude_decimal false m hr
    rw [Text.toList_repr_ofNat]
    rw [hds, List.cons_append] at hread ⊢
    rw [readScalar_of_isDigit hc, hread]
    rfl
  | negSucc m =>
    obtain ⟨c, digits, hds, hc⟩ := exists_cons_decimal (m + 1)
    have hread := readMagnitude_decimal true (m + 1) hr
    rw [Text.toList_repr_negSucc]
    rw [hds, List.cons_append] at hread
    rw [hds, List.cons_append, List.cons_append, readScalar_minus hc, hread]
    rfl

end Json
end DocTable
