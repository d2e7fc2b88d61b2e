/-
# Words of a statement

The words of a statement are read in the plain state of the scan. What stands inside an identifier
or a literal is no word, however it is spelt: a table may be named like a clause. The plain part of
closed fragments put together is their plain parts put together, so a word of one fragment is a word
of the whole, and a character that no fragment has in its plain part is in none of the words.
-/
import DocTable.Proofs.Statement.Lexing

namespace DocTable
namespace Lexing

/-- The characters of a text that are met outside of identifiers and literals, and the marks that
open these. -/
def plainPart (escapes : Bool) : Place → List Char → List Char
  | _, [] => []
  | place, c :: rest =>
    if place = .plain then c :: plainPart escapes (place.next escapes c) rest
    else plainPart escapes (place.next escapes c) rest

/-- A text has a word in its plain part. -/
def HasWord (escapes : Bool) (word text : String) : Prop :=
  word.toList <:+: plainPart escapes .plain text.toList

lemma plainPart_append (escapes : Bool) (place : Place) (text rest : List Char) :
    plainPart escapes place (text ++ rest) =
      plainPart escapes place text ++ plainPart escapes (run escapes place text).1 rest := by
  induction text generalizing place with
  | nil => rfl
  | cons c cs ih =>
    simp only [List.cons_append, plainPart, run_cons, ih]
    split_ifs <;> rfl

/-- The plain part of a closed fragment does not depend on what follows. -/
lemma Closed.plainPart_append {a : String} {n : Nat} (h : Closed a n) (escapes : Bool)
    (b : String) :
    plainPart escapes .plain (a ++ b).toList =
      plainPart escapes .plain a.toList ++ plainPart escapes .plain b.toList := by
  rw [closed_iff_run] at h
  rw [String.toList_append, Lexing.plainPart_append, h escapes]

lemma Closed.hasWord_append_right {a b word : String} {n : Nat} (h : Closed a n) {escapes : Bool}
    (hb : HasWord escapes word b) : HasWord escapes word (a ++ b) := by
  rw [HasWord, h.plainPart_append]
  exact hb.trans (List.suffix_append _ _).isInfix

lemma Closed.hasWord_append_left {a b word : String} {n : Nat} (h : Closed a n) {escapes : Bool}
    (ha : HasWord escapes word a) : HasWord escapes word (a ++ b) := by
  rw [HasWord, h.plainPart_append]
  exact ha.trans (List.prefix_append _ _).isInfix

/-- A text without marks is plain from its start to its end. -/
lemma hasWord_self {word : String} (h : Unmarked word.toList) (escapes : Bool) :
    HasWord escapes word word := by
  have hplain : plainPart escapes .plain word.toList = word.toList := by
    generalize word.toList = chars at h
    induction chars with
    | nil => rfl
    | cons c cs ih =>
      obtain ⟨hc, hcs⟩ := List.forall_mem_cons.1 h
      simp only [List.mem_cons, List.not_mem_nil, or_false, not_or] at hc
      rw [plainPart, if_pos rfl, Place.next, if_neg hc.1, if_neg hc.2.1, ih hcs]
  exact ⟨[], [], by rw [hplain, List.nil_append, List.append_nil]⟩

/-! ## Characters that are in no word -/

/-- A closed fragment that does not have a character in its plain part. -/
structure Lacks (c : Char) (text : String) (count : Nat) : Prop where
  closed : Closed text count
  notMem : ∀ escapes, c ∉ plainPart escapes .plain text.toList

variable {c : Char}

lemma lacks_empty : Lacks c "" 0 := ⟨closed_empty, fun _ => List.not_mem_nil⟩

lemma Lacks.append {a b : String} {m n : Nat} (ha : Lacks c a m) (hb : Lacks c b n) :
    Lacks c (a ++ b) (m + n) := by
  refine ⟨ha.closed.append hb.closed, fun escapes => ?_⟩
  rw [ha.closed.plainPart_append, List.mem_append, not_or]
  exact ⟨ha.notMem escapes, hb.notMem escapes⟩

lemma Lacks.append_zero {a b : String} {n : Nat} (ha : Lacks c a 0) (hb : Lacks c b n) :
    Lacks c (a ++ b) n := by
  have happ := ha.append hb
  rwa [Nat.zero_add] at happ

lemma lacks_intercalate {separator : String} (hsep : Lacks c separator 0)
    {fragments : List String} {count : Nat} (h : ∀ f ∈ fragments, Lacks c f count) :
    Lacks c (String.intercalate separator fragments) (fragments.length * count) := by
  induction fragments with
  | nil => simpa using lacks_empty
  | cons f fs ih =>
    obtain ⟨hf, hfs⟩ := List.forall_mem_cons.1 h
    cases fs with
    | nil => simpa using hf
    | cons g gs =>
      rw [String.intercalate_cons_cons, List.length_cons, Nat.succ_mul, Nat.add_comm]
      exact (hf.append hsep).append (ih hfs)

/-- Inside an identifier nothing but the second one of a doubled mark is met in the plain state. -/
lemma mem_plainPart_doubled {escapes : Bool} {name : List Char}
    (h : c ∈ plainPart escapes .identifier (Text.doubled Dialect.quoteMark name)) :
    c = Dialect.quoteMark := by
  induction name with
  | nil => cases h
  | cons d ds ih =>
    rw [Text.doubled] at h
    split_ifs at h with hd
    · simp only [plainPart, Place.next, if_true, reduceCtorEq, if_false] at h
      rcases List.mem_cons.1 h with rfl | h
      · rfl
      · exact ih h
    · simp only [plainPart, Place.next, hd, reduceCtorEq, if_false] at h
      exact ih h

/-- The name of an identifier is no word. -/
lemma lacks_quote (hc : c ≠ Dialect.quoteMark) (name : String) :
    Lacks c (Dialect.quote name) 0 := by
  refine ⟨closed_quote name, fun escapes hmem => ?_⟩
  rw [Dialect.quote, String.toList_ofList, List.cons_append, plainPart, if_pos rfl, Place.next,
    if_pos rfl, plainPart_append, run_doubled_identifier] at hmem
  rcases List.mem_cons.1 hmem with hmem | hmem
  · exact hc hmem
  · rcases List.mem_append.1 hmem with hmem | hmem
    · exact hc (mem_plainPart_doubled hmem)
    · simp [plainPart] at hmem

/-- A text without a character has no word with it. -/
lemma Lacks.not_hasWord {text word : String} {count : Nat} (h : Lacks c text count)
    (hc : c ∈ word.toList) (escapes : Bool) : ¬HasWord escapes word text :=
  fun hword => h.notMem escapes (hword.subset hc)

end Lexing
end DocTable
