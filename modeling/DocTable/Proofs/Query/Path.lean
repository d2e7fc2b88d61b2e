/-
# Characters of path segments

The characters of the segments that are written as they are: an index has digits only, and a plain
identifier is a name of letters, digits and underscores, and perhaps a line end after it. No mark of
a JSON path or of a statement is among them.
-/
import DocTable.Query.Path
import Mathlib.Data.List.Basic
import Mathlib.Data.List.TakeWhile
import Mathlib.Tactic.Common

namespace DocTable
namespace Path

lemma continuesIdentifier_of_starts {c : Char} (h : Text.startsIdentifier c = true) :
    Text.continuesIdentifier c = true := by
  simp only [Text.startsIdentifier, Text.continuesIdentifier, Char.isAlphanum,
    Bool.or_eq_true] at h ⊢
  exact h.elim (fun hc => Or.inl (Or.inl hc)) Or.inr

/-- Whether a text is a name: ASCII letters, digits and underscores, the first of them no digit. -/
def isName : List Char → Bool
  | [] => false
  | c :: rest => Text.startsIdentifier c && rest.all Text.continuesIdentifier

/-- Whether a segment is a name with a line end behind it. -/
def isEndedName (segment : List Char) : Bool :=
  segment.getLast? == some '\n' && isName segment.dropLast

lemma isEndedName_iff {segment : List Char} :
    isEndedName segment = true ↔ ∃ word, isName word = true ∧ segment = word ++ ['\n'] := by
  rw [isEndedName, Bool.and_eq_true, beq_iff_eq]
  constructor
  · rintro ⟨hlast, hname⟩
    exact ⟨_, hname, (List.dropLast_append_getLast? _ hlast).symm⟩
  · rintro ⟨word, hname, rfl⟩
    simpa using hname

/-- What is taken for an identifier is a name, or a name with a line end behind it. -/
lemma isIdentifier_iff {segment : List Char} :
    isIdentifier segment = true ↔ isName segment = true ∨ isEndedName segment = true := by
  rw [isEndedName_iff]
  constructor
  · intro h
    cases segment with
    | nil => cases h
    | cons c rest =>
      rw [isIdentifier, Bool.and_eq_true] at h
      obtain ⟨hstarts, hrest⟩ := h
      have hword : isName (c :: rest.takeWhile Text.continuesIdentifier) = true := by
        rw [isName, hstarts, List.all_takeWhile, Bool.and_self]
      have hsplit := rest.takeWhile_append_dropWhile (p := Text.continuesIdentifier)
      split at hrest
      · rename_i hnil
        rw [hnil, List.append_nil] at hsplit
        rw [hsplit] at hword
        exact .inl hword
      · rename_i hline
        rw [hline] at hsplit
        exact .inr ⟨_, hword, by rw [List.cons_append, hsplit]⟩
      · cases hrest
  · rintro (h | ⟨word, h, rfl⟩)
    · cases segment with
      | nil => cases h
      | cons c rest =>
        rw [isName, Bool.and_eq_true, List.all_eq_true] at h
        have hnil : rest.dropWhile Text.continuesIdentifier = [] :=
          List.dropWhile_eq_nil_iff.2 h.2
        rw [isIdentifier, h.1, hnil, Bool.and_self]
    · cases word with
      | nil => cases h
      | cons c rest =>
        rw [isName, Bool.and_eq_true, List.all_eq_true] at h
        have hline : (rest ++ ['\n']).dropWhile Text.continuesIdentifier = ['\n'] := by
          rw [List.dropWhile_append_of_pos h.2]
          decide
        rw [List.cons_append, isIdentifier, h.1, hline]
        rfl

lemma continuesIdentifier_of_isName {word : List Char} (h : isName word = true) :
    ∀ c ∈ word, Text.continuesIdentifier c = true := by
  cases word with
  | nil => cases h
  | cons c rest =>
    rw [isName, Bool.and_eq_true, List.all_eq_true] at h
    exact List.forall_mem_cons.2 ⟨continuesIdentifier_of_starts h.1, h.2⟩

/-- A plain identifier has letters, digits, underscores and perhaps a line end. -/
lemma mem_of_isIdentifier {segment : List Char} (h : isIdentifier segment = true) :
    ∀ c ∈ segment, Text.continuesIdentifier c = true ∨ c = '\n' := by
  intro c hc
  rcases isIdentifier_iff.1 h with hname | hended
  · exact .inl (continuesIdentifier_of_isName hname c hc)
  · obtain ⟨word, hname, rfl⟩ := isEndedName_iff.1 hended
    rcases List.mem_append.1 hc with hc | hc
    · exact .inl (continuesIdentifier_of_isName hname c hc)
    · exact .inr (List.mem_singleton.1 hc)

/-- A character that has no place in a plain identifier. -/
lemma ne_of_isIdentifier {segment : List Char} (h : isIdentifier segment = true) (mark : Char)
    (hmark : Text.continuesIdentifier mark = false) (hline : mark ≠ '\n') :
    ∀ c ∈ segment, c ≠ mark := by
  rintro c hc rfl
  rcases mem_of_isIdentifier h c hc with hcontinues | heq
  · rw [hmark] at hcontinues
    cases hcontinues
  · exact hline heq

/-- A character that has no digit value has no place in an index. -/
lemma ne_of_isIndex {segment : List Char} (h : isIndex segment = true) (mark : Char)
    (hmark : Text.hasDigitValue mark = false) : ∀ c ∈ segment, c ≠ mark := by
  rw [isIndex, Bool.and_eq_true, List.all_eq_true] at h
  rintro c hc rfl
  rw [h.2 c hc] at hmark
  cases hmark

end Path
end DocTable
