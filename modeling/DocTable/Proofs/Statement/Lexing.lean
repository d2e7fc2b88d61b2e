/-
# Scanning the text of a statement

The text of a statement is scanned from left to right in three states: in the plain state, inside an
identifier between backticks, and inside a literal between apostrophes. The mark that closes an
identifier or a literal stays inside when it is written twice. A backslash inside a literal is an
ordinary character for some stores, and takes the next character with it for others.

Looking ahead for a second mark makes the scan of a text depend on what follows it. An automaton
that leaves at the first mark and enters again at the second gives the same result, and its run on a
text is the run on a part of it continued on the rest; so fragments that leave it in the plain state
can be put together in any order.
-/
import DocTable.Dialect.Basic
import DocTable.Statement
import Mathlib.Algebra.Order.Ring.Nat

namespace DocTable
namespace Lexing

/-- Where the scan of a statement stands. -/
inductive State where
  /-- Outside of all marks. -/
  | plain
  /-- Inside an identifier. -/
  | identifier
  /-- Inside a literal. -/
  | literal
deriving DecidableEq

/-- The mark around literals. -/
def apostrophe : Char := '\x27'

/-- The character that may take the next one with it. -/
def backslash : Char := '\x5c'

/-- The state at the end of a text, and the number of placeholders met in the plain state. Whether a
backslash in a literal takes the next character with it is a parameter. -/
def scan (escapes : Bool) : State → List Char → State × Nat
  | state, [] => (state, 0)
  | .plain, c :: rest =>
    if c = Dialect.quoteMark then scan escapes .identifier rest
    else if c = apostrophe then scan escapes .literal rest
    else
      let (state, count) := scan escapes .plain rest
      (state, if c = '?' then count + 1 else count)
  | .identifier, [c] => (if c = Dialect.quoteMark then .plain else .identifier, 0)
  | .identifier, c :: d :: rest =>
    if c = Dialect.quoteMark then
      if d = Dialect.quoteMark then scan escapes .identifier rest
      else scan escapes .plain (d :: rest)
    else scan escapes .identifier (d :: rest)
  | .literal, [c] => (if c = apostrophe then .plain else .literal, 0)
  | .literal, c :: d :: rest =>
    if c = apostrophe then
      if d = apostrophe then scan escapes .literal rest else scan escapes .plain (d :: rest)
    else if escapes && c = backslash then scan escapes .literal rest
    else scan escapes .literal (d :: rest)

/-! ## An automaton without lookahead -/

/-- Where the automaton stands. -/
inductive Place where
  /-- Outside of all marks. -/
  | plain
  /-- Inside an identifier. -/
  | identifier
  /-- Inside a literal. -/
  | literal
  /-- Inside a literal, after a backslash that takes the next character with it. -/
  | escaped
deriving DecidableEq

/-- The place at which the automaton stands in a state of the scan. -/
def State.place : State → Place
  | plain => .plain
  | identifier => .identifier
  | literal => .literal

/-- The state of the scan at a place. -/
def Place.state : Place → State
  | plain => .plain
  | identifier => .identifier
  | literal => .literal
  | escaped => .literal

/-- The place after a character. -/
def Place.next (escapes : Bool) : Place → Char → Place
  | plain, c =>
    if c = Dialect.quoteMark then identifier else if c = apostrophe then literal else plain
  | identifier, c => if c = Dialect.quoteMark then plain else identifier
  | literal, c =>
    if c = apostrophe then plain else if escapes && c = backslash then escaped else literal
  | escaped, _ => literal

/-- The number of placeholders, one or none, that a character is at a place. -/
def Place.count : Place → Char → Nat
  | plain, c => if c = '?' then 1 else 0
  | _, _ => 0

/-- The place after a text, and the number of placeholders met. -/
def run (escapes : Bool) : Place → List Char → Place × Nat
  | place, [] => (place, 0)
  | place, c :: rest =>
    let (final, count) := run escapes (place.next escapes c) rest
    (final, place.count c + count)

/-- The run on a text goes on where the run on a part of it has ended. -/
lemma run_append (escapes : Bool) (place : Place) (text rest : List Char) :
    run escapes place (text ++ rest) =
      ((run escapes (run escapes place text).1 rest).1,
        (run escapes place text).2 + (run escapes (run escapes place text).1 rest).2) := by
  induction text generalizing place with
  | nil => simp [run]
  | cons c cs ih => simp only [List.cons_append, run, ih, Nat.add_assoc]

lemma run_cons (escapes : Bool) (place : Place) (c : Char) (rest : List Char) :
    run escapes place (c :: rest) =
      ((run escapes (place.next escapes c) rest).1,
        place.count c + (run escapes (place.next escapes c) rest).2) := rfl

lemma apostrophe_ne_quoteMark : apostrophe ≠ Dialect.quoteMark := by decide

/-- A mark is no placeholder. -/
lemma count_mark (place : Place) {c : Char} (h : c = Dialect.quoteMark ∨ c = apostrophe) :
    place.count c = 0 := by
  have hne : c ≠ '?' := by rcases h with rfl | rfl <;> decide
  cases place <;> simp [Place.count, hne]

/-- The automaton gives what the scan gives. -/
lemma scan_eq_run (escapes : Bool) (state : State) (text : List Char) :
    scan escapes state text =
      ((run escapes state.place text).1.state, (run escapes state.place text).2) := by
  fun_induction scan escapes state text with
  | case1 state => cases state <;> rfl
  | case2 rest ih => simpa [State.place, run_cons, Place.next, count_mark] using ih
  | case3 rest hne ih => simpa [State.place, run_cons, Place.next, count_mark, hne] using ih
  | case4 c rest hmark hne state count heq ih =>
    rw [heq, Prod.mk.injEq] at ih
    obtain ⟨rfl, rfl⟩ := ih
    simp only [State.place, run_cons, Place.next, Place.count, if_neg hmark, if_neg hne]
    split_ifs <;> simp [Nat.add_comm]
  | case5 c => simp only [State.place, run_cons, Place.next]; split_ifs <;> rfl
  | case6 rest ih =>
    -- a doubled mark leaves the identifier and enters it again
    simpa [State.place, run_cons, Place.next, count_mark] using ih
  | case7 d rest hne ih => simpa [State.place, run_cons, Place.next, Place.count] using ih
  | case8 c d rest hne ih => simpa [State.place, run_cons, Place.next, Place.count, hne] using ih
  | case9 c =>
    simp only [State.place, run_cons, Place.next]
    split_ifs <;> rfl
  | case10 rest ih =>
    simpa [State.place, run_cons, Place.next, count_mark, apostrophe_ne_quoteMark] using ih
  | case11 d rest hne ih => simpa [State.place, run_cons, Place.next, Place.count] using ih
  | case12 c d rest hne hslash ih =>
    -- the character after a backslash is passed over whatever it is
    simpa [State.place, run_cons, Place.next, Place.count, hne, hslash] using ih
  | case13 c d rest hne hslash ih =>
    simpa [State.place, run_cons, Place.next, Place.count, hne, hslash] using ih

/-! ## Closed fragments -/

/-- A fragment that is scanned from the plain state to the plain state, whatever a backslash is, and
has so many placeholders. -/
def Closed (text : String) (count : Nat) : Prop :=
  ∀ escapes, scan escapes .plain text.toList = (.plain, count)

lemma closed_iff_run {text : String} {count : Nat} :
    Closed text count ↔ ∀ escapes, run escapes .plain text.toList = (.plain, count) := by
  refine forall_congr' fun escapes => ?_
  have hstate : ∀ place : Place, place.state = .plain ↔ place = .plain := by
    intro place
    cases place <;> simp [Place.state]
  rw [scan_eq_run, Prod.mk.injEq, hstate, Prod.ext_iff]
  rfl

lemma closed_empty : Closed "" 0 := fun _ => rfl

/-- Closed fragments one after the other are closed, and their placeholders add up. -/
lemma Closed.append {a b : String} {m n : Nat} (ha : Closed a m) (hb : Closed b n) :
    Closed (a ++ b) (m + n) := by
  rw [closed_iff_run] at ha hb ⊢
  intro escapes
  rw [String.toList_append, run_append, ha, hb]

/-- Closed fragments without placeholders one after the other. -/
lemma Closed.append_zero {a b : String} {n : Nat} (ha : Closed a 0) (hb : Closed b n) :
    Closed (a ++ b) n := by
  have happ := ha.append hb
  rwa [Nat.zero_add] at happ

/-- A text in which nothing is a mark or a placeholder. -/
def Unmarked (text : List Char) : Prop := ∀ c ∈ text, c ∉ [Dialect.quoteMark, apostrophe, '?']

instance (text : List Char) : Decidable (Unmarked text) :=
  List.decidableBAll (fun c => c ∉ [Dialect.quoteMark, apostrophe, '?']) text

lemma Unmarked.append {a b : List Char} (ha : Unmarked a) (hb : Unmarked b) : Unmarked (a ++ b) :=
  List.forall_mem_append.2 ⟨ha, hb⟩

lemma closed_of_unmarked {text : String} (h : Unmarked text.toList) : Closed text 0 := by
  rw [closed_iff_run]
  intro escapes
  generalize text.toList = chars at h
  induction chars with
  | nil => rfl
  | cons c cs ih =>
    obtain ⟨hc, hcs⟩ := List.forall_mem_cons.1 h
    simp only [List.mem_cons, List.not_mem_nil, or_false, not_or] at hc
    rw [run_cons, Place.next, if_neg hc.1, if_neg hc.2.1, ih hcs, Place.count, if_neg hc.2.2,
      Nat.add_zero]

/-- Closed fragments between closed separators are closed, and their placeholders add up. -/
lemma closed_intercalate {separator : String} (hsep : Closed separator 0)
    {fragments : List (String × Nat)} (h : ∀ f ∈ fragments, Closed f.1 f.2) :
    Closed (String.intercalate separator (fragments.map Prod.fst))
      (fragments.map Prod.snd).sum := by
  induction fragments with
  | nil => exact closed_empty
  | cons f fs ih =>
    obtain ⟨hf, hfs⟩ := List.forall_mem_cons.1 h
    cases fs with
    | nil => simpa using hf
    | cons g gs =>
      rw [List.map_cons, List.map_cons, String.intercalate_cons_cons, List.map_cons, List.sum_cons]
      exact (hf.append hsep).append (ih hfs)

/-- Closed fragments without placeholders between closed separators. -/
lemma closed_intercalate_zero {separator : String} (hsep : Closed separator 0)
    {fragments : List String} (h : ∀ f ∈ fragments, Closed f 0) :
    Closed (String.intercalate separator fragments) 0 := by
  have hall : ∀ f ∈ fragments.map fun text => (text, 0), Closed f.1 f.2 := by
    simpa using h
  have hclosed := closed_intercalate hsep hall
  have hsum : ((fragments.map fun text => (text, 0)).map Prod.snd).sum = 0 := by
    rw [List.map_map]
    exact List.sum_eq_zero_iff_forall_eq_nat.2 (by simp)
  have htexts : (fragments.map fun text => (text, 0)).map Prod.fst = fragments := by
    simp [Function.comp_def]
  rwa [hsum, htexts] at hclosed

/-! ## Identifiers and literals -/

/-- Inside an identifier, the scan stays inside while every mark is written twice. -/
lemma run_doubled_identifier (escapes : Bool) (name : List Char) :
    run escapes .identifier (Text.doubled Dialect.quoteMark name) = (.identifier, 0) := by
  induction name with
  | nil => rfl
  | cons c cs ih =>
    rw [Text.doubled]
    split_ifs with hc
    · simp [run_cons, Place.next, count_mark, ih]
    · simp [run_cons, Place.next, Place.count, hc, ih]

/-- An identifier between quote marks is closed. -/
lemma closed_quote (name : String) : Closed (Dialect.quote name) 0 := by
  rw [closed_iff_run]
  intro escapes
  rw [Dialect.quote, String.toList_ofList, List.cons_append, run_cons, Place.next, if_pos rfl,
    run_append, run_doubled_identifier]
  simp [run, Place.next, count_mark]

/-- A text that can stand between apostrophes: where backslashes take a character with them, it is
never a mark. -/
def Sheltered (text : List Char) : Prop :=
  ∀ escapes, run escapes .literal (Text.doubled apostrophe text) = (.literal, 0)

lemma sheltered_nil : Sheltered [] := fun _ => rfl

lemma doubled_append (q : Char) (a b : List Char) :
    Text.doubled q (a ++ b) = Text.doubled q a ++ Text.doubled q b := by
  induction a with
  | nil => rfl
  | cons c cs ih => rw [List.cons_append, Text.doubled, Text.doubled]; split_ifs <;> simp [ih]

lemma Sheltered.append {a b : List Char} (ha : Sheltered a) (hb : Sheltered b) :
    Sheltered (a ++ b) := by
  intro escapes
  rw [doubled_append, run_append, ha, hb, Nat.add_zero]

lemma Sheltered.flatMap {α : Type} {items : List α} {f : α → List Char}
    (h : ∀ item ∈ items, Sheltered (f item)) : Sheltered (items.flatMap f) := by
  induction items with
  | nil => exact sheltered_nil
  | cons item items ih =>
    obtain ⟨hitem, hitems⟩ := List.forall_mem_cons.1 h
    exact hitem.append (ih hitems)

/-- A character other than a backslash can stand between apostrophes. -/
lemma sheltered_singleton {c : Char} (h : c ≠ backslash) : Sheltered [c] := by
  intro escapes
  rw [Text.doubled]
  split_ifs with hc
  · subst hc
    simp [Text.doubled, run, Place.next, count_mark, apostrophe_ne_quoteMark]
  · simp [Text.doubled, run, Place.next, Place.count, hc, h]

/-- A backslash can stand between apostrophes in front of what is neither a mark nor a backslash by
itself. -/
lemma sheltered_escape {c : Char} (h : c ≠ apostrophe) : Sheltered [backslash, c] := by
  intro escapes
  have hslash : backslash ≠ apostrophe := by decide
  have htext : Text.doubled apostrophe [backslash, c] = [backslash, c] := by
    simp [Text.doubled, hslash, h]
  rw [htext]
  cases escapes <;> simp [run, Place.next, Place.count, hslash, h]

lemma Sheltered.of_forall {text : List Char} (h : ∀ c ∈ text, c ≠ backslash) : Sheltered text := by
  have hsingle := Sheltered.flatMap fun c hc => sheltered_singleton (h c hc)
  simpa using hsingle

/-- A literal of what can stand between apostrophes is closed. -/
lemma closed_literal {s : String} (h : Sheltered s.toList) : Closed (Dialect.literal s) 0 := by
  rw [closed_iff_run]
  intro escapes
  have hopen : Place.plain.next escapes '\x27' = .literal := rfl
  have hbody := h escapes
  rw [apostrophe] at hbody
  rw [Dialect.literal, String.toList_ofList, List.cons_append, run_cons, hopen, run_append, hbody]
  rfl

end Lexing
end DocTable
