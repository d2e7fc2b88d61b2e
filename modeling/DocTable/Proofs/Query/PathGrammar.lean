/-
# The grammar of JSON paths

A JSON path is a dollar sign and the steps after it: an index in brackets, a name behind a dot, or a
key in quotation marks behind a dot, in which quotation marks and backslashes stand behind a
backslash. Digits and names are of ASCII.

The path of some segments is in the grammar unless one of them is of digits that are not all of
ASCII, or is a name with a line end behind it. Where it is, it reads in one way only, with one step
for each segment.
-/
import DocTable.Proofs.Query.PathCode

namespace DocTable
namespace Path

/-! ## The grammar -/

/-- Whether a text is a numeral of ASCII digits. -/
def isNumeral (text : List Char) : Bool := !text.isEmpty && text.all Char.isDigit

/-- A step into a JSON value. -/
inductive Step where
  /-- To an element of a list. -/
  | index (place : Nat)
  /-- To a member of an object. -/
  | key (name : List Char)
deriving DecidableEq

/-- The index that a numeral stands for. -/
def Step.ofNumeral (digits : List Char) : Step := .index (Nat.ofDigitChars 10 digits 0)

/-- What stands between quotation marks spells a key. -/
inductive Spells : List Char → List Char → Prop
  | nil : Spells [] []
  | plain {c : Char} {body name : List Char} (hslash : c ≠ '\x5c') (hquote : c ≠ '\x22')
      (h : Spells body name) : Spells (c :: body) (c :: name)
  | escaped {c : Char} {body name : List Char} (hc : c = '\x5c' ∨ c = '\x22')
      (h : Spells body name) : Spells ('\x5c' :: c :: body) (c :: name)

/-- A text reads as steps. -/
inductive Reads : List Char → List Step → Prop
  | nil : Reads [] []
  | index {digits rest : List Char} {steps : List Step} (hdigits : isNumeral digits = true)
      (h : Reads rest steps) : Reads ('[' :: (digits ++ ']' :: rest)) (.ofNumeral digits :: steps)
  | name {word rest : List Char} {steps : List Step} (hword : isName word = true)
      (h : Reads rest steps) : Reads ('.' :: (word ++ rest)) (.key word :: steps)
  | quoted {body name rest : List Char} {steps : List Step} (hbody : Spells body name)
      (h : Reads rest steps) :
      Reads ('.' :: '\x22' :: (body ++ '\x22' :: rest)) (.key name :: steps)

/-- A text is a JSON path with these steps. -/
def Denotes (path : String) (steps : List Step) : Prop :=
  ∃ rest, path.toList = '$' :: rest ∧ Reads rest steps

/-! ## Readings -/

lemma Reads.followsStep {text : List Char} {steps : List Step} (h : Reads text steps) :
    FollowsStep text := by
  intro c hc
  cases h with
  | nil => cases hc
  | index | name | quoted =>
    cases hc
    decide

/-- Behind a bracket an index is read. -/
lemma Reads.of_bracket {text : List Char} {steps : List Step} (h : Reads ('[' :: text) steps) :
    ∃ digits rest others, isNumeral digits = true ∧ text = digits ++ ']' :: rest ∧
      steps = .ofNumeral digits :: others ∧ Reads rest others := by
  generalize hbracket : '[' :: text = all at h
  cases h with
  | nil => cases hbracket
  | index hdigits hrest => exact ⟨_, _, _, hdigits, (List.cons.inj hbracket).2, rfl, hrest⟩
  | name => cases (List.cons.inj hbracket).1
  | quoted => cases (List.cons.inj hbracket).1

/-- Behind a dot a name or a key in quotation marks is read. -/
lemma Reads.of_dot {text : List Char} {steps : List Step} (h : Reads ('.' :: text) steps) :
    (∃ word rest others, isName word = true ∧ text = word ++ rest ∧
      steps = .key word :: others ∧ Reads rest others) ∨
    ∃ body name rest others, Spells body name ∧ text = '\x22' :: (body ++ '\x22' :: rest) ∧
      steps = .key name :: others ∧ Reads rest others := by
  generalize hdot : '.' :: text = all at h
  cases h with
  | nil => cases hdot
  | index => cases (List.cons.inj hdot).1
  | name hword hrest => exact .inl ⟨_, _, _, hword, (List.cons.inj hdot).2, rfl, hrest⟩
  | quoted hbody hrest => exact .inr ⟨_, _, _, _, hbody, (List.cons.inj hdot).2, rfl, hrest⟩

/-- A key has one spelling only. -/
lemma spells_iff {body name : List Char} : Spells body name ↔ body = name.flatMap keyChar := by
  constructor
  · intro h
    induction h with
    | nil => rfl
    | plain hslash hquote _ ih =>
      rw [List.flatMap_cons, keyChar, if_neg hslash, if_neg hquote, ih]
      rfl
    | escaped hc _ ih =>
      rcases hc with rfl | rfl <;>
      · rw [List.flatMap_cons, ih]
        rfl
  · rintro rfl
    induction name with
    | nil => exact .nil
    | cons c name ih =>
      rw [List.flatMap_cons, keyChar]
      split_ifs with hslash hquote
      · subst hslash
        exact .escaped (.inl rfl) ih
      · subst hquote
        exact .escaped (.inr rfl) ih
      · exact .plain hslash hquote ih

/-! ## Segments -/

/-- Whether a segment is of digits that are not all of ASCII. -/
def hasForeignDigits (segment : List Char) : Bool := isIndex segment && !segment.all Char.isDigit

/-- The step that a segment asks for: an index if it is a numeral, and otherwise the key that is
equal to it. -/
def Step.ofSegment (segment : List Char) : Step :=
  if isNumeral segment then .ofNumeral segment else .key segment

lemma hasDigitValue_of_isDigit {c : Char} (h : c.isDigit = true) : Text.hasDigitValue c = true := by
  have hrange : ((48, 57) : Nat × Nat) ∈ Text.digitRanges := by decide
  refine List.any_eq_true.2 ⟨_, hrange, ?_⟩
  simp only [Char.isDigit, Bool.and_eq_true, decide_eq_true_eq, ge_iff_le,
    UInt32.le_iff_toNat_le] at h ⊢
  exact h

lemma isIndex_of_isNumeral {segment : List Char} (h : isNumeral segment = true) :
    isIndex segment = true := by
  rw [isNumeral, Bool.and_eq_true, List.all_eq_true] at h
  rw [isIndex, Bool.and_eq_true, List.all_eq_true]
  exact ⟨h.1, fun c hc => hasDigitValue_of_isDigit (h.2 c hc)⟩

/-- What is taken for an index is a numeral, or has digits that are not of ASCII. -/
lemma isNumeral_eq_not_hasForeignDigits {segment : List Char} (h : isIndex segment = true) :
    isNumeral segment = !hasForeignDigits segment := by
  have hsome := h
  rw [isIndex, Bool.and_eq_true] at hsome
  rw [isNumeral, hasForeignDigits, h, hsome.1, Bool.true_and, Bool.true_and, Bool.not_not]

/-- A name has no line end behind it. -/
lemma isEndedName_of_isName {segment : List Char} (h : isName segment = true) :
    isEndedName segment = false := by
  rw [Bool.eq_false_iff, Ne, isEndedName_iff]
  rintro ⟨word, hword, rfl⟩
  cases word with
  | nil => cases hword
  | cons c rest =>
    rw [List.cons_append, isName, Bool.and_eq_true, List.all_eq_true] at h
    exact absurd (h.2 '\n' (by simp)) (by decide)

/-- An index has no line end. -/
lemma isEndedName_of_isIndex {segment : List Char} (h : isIndex segment = true) :
    isEndedName segment = false := by
  rw [Bool.eq_false_iff, Ne, isEndedName_iff]
  rintro ⟨word, -, rfl⟩
  exact ne_of_isIndex h '\n' (by decide) '\n' (by simp) rfl

/-! ## Paths -/

section Paths

variable {segment rest : List Char} {steps : List Step}

lemma reads_indexStep_iff (hindex : isIndex segment = true) :
    Reads ('[' :: (segment ++ ']' :: rest)) steps ↔
      isNumeral segment = true ∧
        ∃ others, steps = .ofNumeral segment :: others ∧ Reads rest others := by
  constructor
  · intro h
    obtain ⟨digits, tail, others, hdigits, htext, hsteps, hothers⟩ := h.of_bracket
    obtain ⟨rfl, rfl⟩ := Text.append_mark_inj (notMem_of_isIndex hindex)
      (notMem_of_isIndex (isIndex_of_isNumeral hdigits)) htext
    exact ⟨hdigits, others, hsteps, hothers⟩
  · rintro ⟨hnumeral, others, rfl, hothers⟩
    exact .index hnumeral hothers

lemma reads_nameStep_iff (hidentifier : isIdentifier segment = true) (hrest : FollowsStep rest) :
    Reads ('.' :: (segment ++ rest)) steps ↔
      isName segment = true ∧ ∃ others, steps = .key segment :: others ∧ Reads rest others := by
  constructor
  · intro h
    rcases h.of_dot with ⟨word, tail, others, hword, htext, hsteps, hothers⟩ |
      ⟨body, name, tail, others, -, htext, -⟩
    · -- both go on up to the next step
      obtain ⟨rfl, rfl⟩ := Text.append_run_inj (startsStep_of_isIdentifier hidentifier)
        (startsStep_of_isIdentifier (isIdentifier_iff.2 (.inl hword))) hrest hothers.followsStep
        htext
      exact ⟨hword, others, hsteps, hothers⟩
    · exact absurd htext (identifier_append_ne hidentifier _ _)
  · rintro ⟨hname, others, rfl, hothers⟩
    exact .name hname hothers

lemma reads_keyStep_iff :
    Reads ('.' :: '\x22' :: (segment.flatMap keyChar ++ '\x22' :: rest)) steps ↔
      ∃ others, steps = .key segment :: others ∧ Reads rest others := by
  constructor
  · intro h
    rcases h.of_dot with ⟨word, tail, others, hword, htext, -⟩ |
      ⟨body, name, tail, others, hbody, htext, hsteps, hothers⟩
    · exact absurd htext.symm (identifier_append_ne (isIdentifier_iff.2 (.inl hword)) _ _)
    · rw [spells_iff.1 hbody] at htext
      obtain ⟨rfl, rfl⟩ := quotedKey_inj (List.cons.inj htext).2
      exact ⟨others, hsteps, hothers⟩
  · rintro ⟨others, rfl, hothers⟩
    exact .quoted (spells_iff.2 rfl) hothers

/-- The step of a segment reads as the step that the segment asks for, or not at all. -/
lemma reads_step_append_iff (hrest : FollowsStep rest) :
    Reads (step segment ++ rest) steps ↔
      (hasForeignDigits segment = false ∧ isEndedName segment = false) ∧
        ∃ others, steps = .ofSegment segment :: others ∧ Reads rest others := by
  by_cases hindex : isIndex segment = true
  · have hstep : step segment ++ rest = '[' :: (segment ++ ']' :: rest) := by
      simp [step, hindex]
    rw [hstep, reads_indexStep_iff hindex, isEndedName_of_isIndex hindex]
    have hforeign := isNumeral_eq_not_hasForeignDigits hindex
    by_cases hnumeral : isNumeral segment = true
    · rw [hnumeral, eq_comm, Bool.not_eq_true'] at hforeign
      rw [Step.ofSegment, if_pos hnumeral]
      simp only [hnumeral, hforeign, and_self]
    · rw [Bool.eq_false_iff.2 hnumeral, eq_comm, Bool.not_eq_false'] at hforeign
      simp [hnumeral, hforeign]
  · have hnumeral : ¬isNumeral segment = true := fun h => hindex (isIndex_of_isNumeral h)
    have hforeign : hasForeignDigits segment = false := by
      rw [hasForeignDigits, Bool.eq_false_iff.2 hindex, Bool.false_and]
    rw [Step.ofSegment, if_neg hnumeral]
    by_cases hidentifier : isIdentifier segment = true
    · have hstep : step segment ++ rest = '.' :: (segment ++ rest) := by
        simp [step, hindex, hidentifier]
      have hname : isName segment = true ↔ isEndedName segment = false := by
        refine ⟨isEndedName_of_isName, fun hended => ?_⟩
        exact (isIdentifier_iff.1 hidentifier).resolve_right (by simp [hended])
      rw [hstep, reads_nameStep_iff hidentifier hrest, hname]
      simp only [hforeign, true_and]
    · have hstep : step segment ++ rest =
          '.' :: '\x22' :: (segment.flatMap keyChar ++ '\x22' :: rest) := by
        simp [step, hindex, hidentifier]
      have hended : isEndedName segment = false := by
        rw [isIdentifier_iff, not_or] at hidentifier
        exact Bool.eq_false_iff.2 hidentifier.2
      rw [hstep, reads_keyStep_iff]
      simp only [hforeign, hended, and_self, true_and]

/-- The steps of segments read as the steps that the segments ask for, or not at all. -/
lemma reads_flatMap_step_iff {segments : List (List Char)} :
    Reads (segments.flatMap step) steps ↔
      (∀ segment ∈ segments, hasForeignDigits segment = false ∧ isEndedName segment = false) ∧
        steps = segments.map Step.ofSegment := by
  induction segments generalizing steps with
  | nil =>
    constructor
    · intro h
      cases h
      simp
    · rintro ⟨-, rfl⟩
      exact .nil
  | cons segment segments ih =>
    rw [List.flatMap_cons, reads_step_append_iff (followsStep_flatMap segments),
      List.forall_mem_cons, List.map_cons]
    simp only [ih]
    constructor
    · rintro ⟨hsegment, others, rfl, hall, rfl⟩
      exact ⟨⟨hsegment, hall⟩, rfl⟩
    · rintro ⟨⟨hsegment, hall⟩, rfl⟩
      exact ⟨hsegment, _, rfl, hall, rfl⟩

end Paths

lemma denotes_jsonPath {segments : List (List Char)} {steps : List Step} :
    Denotes (jsonPath segments) steps ↔ Reads (segments.flatMap step) steps := by
  rw [Denotes, jsonPath, String.toList_ofList]
  constructor
  · rintro ⟨rest, hrest, h⟩
    rwa [(List.cons.inj hrest).2]
  · exact fun h => ⟨_, rfl, h⟩

/-- The path of segments is in the grammar exactly if no segment is of digits that are not all of
ASCII, and none is a name with a line end behind it. It then reads in one way only: with one step
for each segment, in order, which is an index for a numeral of ASCII digits, and otherwise the key
that is equal to the segment. -/
theorem denotes_jsonPath_iff (segments : List (List Char)) (steps : List Step) :
    Denotes (jsonPath segments) steps ↔
      (∀ segment ∈ segments, hasForeignDigits segment = false ∧ isEndedName segment = false) ∧
        steps = segments.map Step.ofSegment :=
  denotes_jsonPath.trans reads_flatMap_step_iff

/-- A superscript, and a name with a line end. -/
theorem not_denotes_jsonPath :
    (∀ steps, ¬Denotes (jsonPath [['²']]) steps) ∧
      ∀ steps, ¬Denotes (jsonPath [['a', '\n']]) steps := by
  refine ⟨fun steps h => ?_, fun steps h => ?_⟩
  · have hforeign := (reads_flatMap_step_iff.1 (denotes_jsonPath.1 h)).1 _ List.mem_cons_self
    exact absurd hforeign.1 (by decide)
  · have hended := (reads_flatMap_step_iff.1 (denotes_jsonPath.1 h)).1 _ List.mem_cons_self
    exact absurd hended.2 (by decide)

end Path
end DocTable
