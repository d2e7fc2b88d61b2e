/-
# Literals of JSON paths

A JSON path is given to the store as a literal between apostrophes, in which apostrophes are written
twice. For some stores a backslash in a literal takes the next character with it, and is itself no
part of what the literal denotes; the backslashes that escape the characters of a key are lost then.
The end of the literal is found all the same, since no backslash stands in front of an apostrophe
that it could take with it.
-/
import DocTable.Proofs.Query.Closed
import DocTable.Proofs.Text.Codes
import Mathlib.Data.List.Basic

namespace DocTable

/-! ## Reading literals -/

namespace Lexing

/-- A reading of the rest of a literal, with the text that is denoted by what comes before. -/
def within (text : List Char) (reading : Option (List Char × List Char)) :
    Option (List Char × List Char) :=
  reading.map fun (denoted, rest) => (text ++ denoted, rest)

/-- What a literal denotes that is read from behind its opening mark, and what follows its closing
mark. A mark that is written twice is one mark. Whether a backslash stands for the character after
it, whatever that is, is a parameter. -/
def readLiteral (escapes : Bool) : List Char → Option (List Char × List Char)
  | [] => none
  | [c] => if c = apostrophe then some ([], []) else none
  | c :: d :: rest =>
    if c = apostrophe then
      if d = apostrophe then within [apostrophe] (readLiteral escapes rest)
      else some ([], d :: rest)
    else if escapes && c = backslash then within [d] (readLiteral escapes rest)
    else within [c] (readLiteral escapes (d :: rest))

/-- Written into a literal, a code denotes a text, whatever follows it there. -/
def StandsFor (escapes : Bool) (code text : List Char) : Prop :=
  ∀ rest, readLiteral escapes (Text.doubled apostrophe code ++ rest) =
    within text (readLiteral escapes rest)

variable {escapes : Bool}

lemma within_within (a b : List Char) (reading : Option (List Char × List Char)) :
    within a (within b reading) = within (a ++ b) reading := by
  cases reading <;> simp [within]

lemma standsFor_nil : StandsFor escapes [] [] := by
  intro rest
  cases h : readLiteral escapes rest <;> simp [Text.doubled, within, h]

lemma StandsFor.append {a b s t : List Char} (ha : StandsFor escapes a s)
    (hb : StandsFor escapes b t) : StandsFor escapes (a ++ b) (s ++ t) := by
  intro rest
  rw [doubled_append, List.append_assoc, ha, hb, within_within]

lemma StandsFor.flatMap {α : Type} {items : List α} {f g : α → List Char}
    (h : ∀ item ∈ items, StandsFor escapes (f item) (g item)) :
    StandsFor escapes (items.flatMap f) (items.flatMap g) := by
  induction items with
  | nil => exact standsFor_nil
  | cons item items ih =>
    obtain ⟨hitem, hitems⟩ := List.forall_mem_cons.1 h
    exact hitem.append (ih hitems)

/-- A character denotes itself, unless it is a backslash that takes another one with it. -/
lemma standsFor_singleton {c : Char} (h : escapes = true → c ≠ backslash) :
    StandsFor escapes [c] [c] := by
  intro rest
  rw [Text.doubled]
  split_ifs with hc
  · subst hc
    simp [Text.doubled, readLiteral]
  · have hslash : (escapes && decide (c = backslash)) = false := by
      cases escapes <;> simp_all
    cases rest <;> simp [Text.doubled, readLiteral, hc, hslash, within]

/-- Behind a backslash that takes it along, a character denotes itself. -/
lemma standsFor_escape {c : Char} (h : c ≠ apostrophe) : StandsFor true [backslash, c] [c] := by
  intro rest
  have hslash : backslash ≠ apostrophe := by decide
  simp [Text.doubled, hslash, h, readLiteral]

/-- Where no character has a backslash in front of it that takes it along, a text denotes itself. -/
lemma standsFor_self {text : List Char} (h : escapes = true → backslash ∉ text) :
    StandsFor escapes text text := by
  have hself : StandsFor escapes (text.flatMap fun c => [c]) (text.flatMap fun c => [c]) :=
    StandsFor.flatMap fun c hc => standsFor_singleton fun hescapes heq => h hescapes (heq ▸ hc)
  simpa using hself

/-- A literal ends at its closing mark. -/
lemma readLiteral_of_standsFor {code text rest : List Char} (h : StandsFor escapes code text)
    (hrest : rest.head? ≠ some apostrophe) :
    readLiteral escapes (Text.doubled apostrophe code ++ apostrophe :: rest) =
      some (text, rest) := by
  rw [h]
  cases rest with
  | nil => simp [readLiteral, within]
  | cons c rest =>
    have hc : c ≠ apostrophe := by simpa using hrest
    simp [readLiteral, within, hc]

end Lexing

/-! ## Paths without escapes -/

namespace Path

open Lexing

/-- Whether a character of a key is escaped. -/
def isEscaped (c : Char) : Bool := c == '\x5c' || c == '\x22'

/-- The step into a JSON value for a segment, without the escapes in its key. -/
def bareStep (segment : List Char) : List Char :=
  if isIndex segment then '[' :: segment ++ [']']
  else if isIdentifier segment then '.' :: segment
  else '.' :: '\x22' :: segment ++ ['\x22']

/-- The JSON path of some segments, without the escapes in their keys. -/
def barePath (segments : List (List Char)) : List Char := '$' :: segments.flatMap bareStep

lemma standsFor_keyChar (c : Char) : StandsFor true (keyChar c) [c] := by
  rw [keyChar]
  split_ifs with hslash hquote
  · subst hslash
    exact standsFor_escape (by decide)
  · subst hquote
    exact standsFor_escape (by decide)
  · exact standsFor_singleton fun _ => hslash

/-- A backslash that takes the next character with it is lost from the key that it is in. -/
lemma standsFor_step (segment : List Char) : StandsFor true (step segment) (bareStep segment) := by
  have hmark : ∀ c, c ≠ backslash → StandsFor true [c] [c] := fun _ hc =>
    standsFor_singleton fun _ => hc
  have hself : (∀ c ∈ segment, c ≠ backslash) → StandsFor true segment segment :=
    fun hsegment => standsFor_self fun _ hmem => hsegment _ hmem rfl
  rw [step, bareStep]
  split_ifs with hindex hidentifier
  · have hsegment := hself (ne_of_isIndex hindex backslash (by decide))
    exact ((hmark '[' (by decide)).append hsegment).append (hmark ']' (by decide))
  · have hsegment := hself (ne_of_isIdentifier hidentifier backslash (by decide) (by decide))
    exact (hmark '.' (by decide)).append hsegment
  · have hkey := StandsFor.flatMap fun c (_ : c ∈ segment) => standsFor_keyChar c
    rw [List.flatMap_singleton'] at hkey
    have hopen := (hmark '.' (by decide)).append (hmark '\x22' (by decide))
    exact (hopen.append hkey).append (hmark '\x22' (by decide))

lemma standsFor_jsonPath (segments : List (List Char)) :
    StandsFor true (jsonPath segments).toList (barePath segments) := by
  have hroot : StandsFor true ['$'] ['$'] := standsFor_singleton fun _ => by decide
  rw [jsonPath, String.toList_ofList]
  exact hroot.append (StandsFor.flatMap fun segment _ => standsFor_step segment)

/-- The escapes of a key make it longer by one character each. -/
lemma length_step (segment : List Char) :
    (step segment).length = (bareStep segment).length + segment.countP isEscaped := by
  have hnone : ∀ {text : List Char}, (∀ c ∈ text, c ≠ '\x5c') → (∀ c ∈ text, c ≠ '\x22') →
      text.countP isEscaped = 0 := by
    intro text hslash hquote
    rw [List.countP_eq_zero]
    intro c hc
    simp [isEscaped, hslash c hc, hquote c hc]
  have hkey : (segment.flatMap keyChar).length = segment.length + segment.countP isEscaped := by
    induction segment with
    | nil => rfl
    | cons c cs ih =>
      rw [List.flatMap_cons, List.length_append, ih, List.countP_cons, List.length_cons, keyChar]
      split_ifs <;> simp_all [isEscaped] <;> omega
  rw [step, bareStep]
  split_ifs with hindex hidentifier
  · rw [hnone (ne_of_isIndex hindex _ (by decide)) (ne_of_isIndex hindex _ (by decide)),
      Nat.add_zero]
  · rw [hnone (ne_of_isIdentifier hidentifier _ (by decide) (by decide))
      (ne_of_isIdentifier hidentifier _ (by decide) (by decide)), Nat.add_zero]
  · simp only [List.cons_append, List.length_cons, List.length_append, hkey]
    omega

lemma length_flatMap_step (segments : List (List Char)) :
    (segments.flatMap step).length =
      (segments.flatMap bareStep).length + (segments.map (List.countP isEscaped)).sum := by
  induction segments with
  | nil => rfl
  | cons segment segments ih =>
    simp only [List.flatMap_cons, List.length_append, List.map_cons, List.sum_cons, ih, length_step]
    omega

lemma flatMap_keyChar {segment : List Char} (h : ∀ c ∈ segment, isEscaped c = false) :
    segment.flatMap keyChar = segment := by
  induction segment with
  | nil => rfl
  | cons c cs ih =>
    obtain ⟨hc, hcs⟩ := List.forall_mem_cons.1 h
    rw [isEscaped, Bool.or_eq_false_iff, beq_eq_false_iff_ne, beq_eq_false_iff_ne] at hc
    rw [List.flatMap_cons, ih hcs, keyChar, if_neg hc.1, if_neg hc.2]
    rfl

/-- A path is the same without its escapes exactly if there is nothing to escape. -/
lemma barePath_eq_iff {segments : List (List Char)} :
    barePath segments = (jsonPath segments).toList ↔
      ∀ segment ∈ segments, ∀ c ∈ segment, isEscaped c = false := by
  rw [jsonPath, String.toList_ofList, barePath, List.cons.injEq, eq_self, true_and]
  constructor
  · intro h segment hsegment c hc
    have hlength := length_flatMap_step segments
    rw [h, left_eq_add, List.sum_eq_zero_iff_forall_eq_nat, List.forall_mem_map] at hlength
    simpa using List.countP_eq_zero.1 (hlength segment hsegment) c hc
  · intro h
    refine List.flatMap_congr fun segment hsegment => ?_
    rw [step, bareStep, flatMap_keyChar (h segment hsegment)]

end Path

/-! ## The literal of an expression -/

namespace Dialect

/-- Whether the stores of a dialect take a backslash in a literal for an escape. -/
def escapes (d : Dialect) : Bool :=
  match d.flavour with
  | .sqlite => false
  | _ => true

/-- The expression for what a JSON column holds, up to the literal of the path. -/
def extractionHead (d : Dialect) (column : String) : String :=
  (match d.flavour with
    | .sqlite => "json_extract"
    | _ => "JSON_EXTRACT")
    ++ "(" ++ quote column ++ ", "

/-- The text that the literal of a JSON path denotes to the stores of a dialect. -/
def denotedPath (d : Dialect) (segments : List (List Char)) : List Char :=
  if d.escapes then Path.barePath segments else (Path.jsonPath segments).toList

lemma closed_extractionHead (d : Dialect) (column : String) :
    Lexing.Closed (d.extractionHead column) 0 := by
  have hopen : Lexing.Closed "(" 0 := Lexing.closed_of_unmarked (by decide)
  have hcomma : Lexing.Closed ", " 0 := Lexing.closed_of_unmarked (by decide)
  have hname : Lexing.Closed (match d.flavour with
    | .sqlite => "json_extract"
    | _ => "JSON_EXTRACT") 0 := by
    split <;> exact Lexing.closed_of_unmarked (by decide)
  exact ((hname.append_zero hopen).append_zero (Lexing.closed_quote column)).append_zero hcomma

end Dialect

namespace Path

open Lexing

/-- The literal of a JSON path denotes the path, without its escapes for some dialects. -/
lemma standsFor_denotedPath (d : Dialect) (segments : List (List Char)) :
    StandsFor d.escapes (jsonPath segments).toList (d.denotedPath segments) := by
  rw [Dialect.denotedPath]
  cases d.escapes with
  | false => exact standsFor_self (by simp)
  | true => exact standsFor_jsonPath segments

lemma denotedPath_eq_iff {d : Dialect} {segments : List (List Char)} :
    d.denotedPath segments = (jsonPath segments).toList ↔
      (d.escapes = true → ∀ segment ∈ segments, ∀ c ∈ segment, isEscaped c = false) := by
  rw [Dialect.denotedPath]
  cases d.escapes with
  | false => simp
  | true => simpa using barePath_eq_iff

/-- The expression of a path that leads into a column, with the literal of the JSON path. -/
lemma compile_of_isNested (d : Dialect) {path : String} (h : isNested path = true) :
    ∃ column segments, Text.splitOn separator path.toList = column :: segments ∧ segments ≠ [] ∧
      compile d path = d.extractionHead (String.ofList column) ++
        Dialect.literal (jsonPath segments) ++ ")" := by
  obtain ⟨column, segment, segments, hsplit⟩ :=
    Text.exists_splitOn_of_mem (List.contains_iff_mem.1 h)
  refine ⟨column, segment :: segments, hsplit, List.cons_ne_nil _ _, ?_⟩
  rw [compile, hsplit]
  rfl

/-- The literal in the expression of a path that leads into a column begins in the plain text of the
expression and ends at its closing mark, whatever follows the expression. It denotes the JSON path
of the segments behind the column, or where backslashes are escapes, that path without its own
escapes: which is the same path exactly if no backslash and no quotation mark is in the segments. -/
theorem readLiteral_compile (d : Dialect) {path : String} (h : isNested path = true)
    (after : List Char) :
    ∃ column segments body,
      Text.splitOn separator path.toList = column :: segments ∧ segments ≠ [] ∧
      Closed (d.extractionHead (String.ofList column)) 0 ∧
      (compile d path).toList ++ after =
        (d.extractionHead (String.ofList column)).toList ++ apostrophe :: body ∧
      readLiteral d.escapes body = some (d.denotedPath segments, ')' :: after) ∧
      (d.denotedPath segments = (jsonPath segments).toList ↔
        (d.escapes = true → ∀ segment ∈ segments, ∀ c ∈ segment, isEscaped c = false)) := by
  obtain ⟨column, segments, hsplit, hsome, hcompile⟩ := compile_of_isNested d h
  refine ⟨column, segments,
    Text.doubled apostrophe (jsonPath segments).toList ++ apostrophe :: ')' :: after,
    hsplit, hsome, d.closed_extractionHead _, ?_, ?_, denotedPath_eq_iff⟩
  · rw [hcompile]
    simp [Dialect.literal, apostrophe]
  · exact readLiteral_of_standsFor (standsFor_denotedPath d segments) (by simp [apostrophe])

/-- A key with an apostrophe, where backslashes are no escapes. -/
theorem readLiteral_compile_apostrophe :
    isNested "p.it's" = true ∧
      ∃ body, (compile ⟨.sqlite, 255⟩ "p.it's").toList ++ " = ?".toList =
          "json_extract(`p`, ".toList ++ apostrophe :: body ∧
        readLiteral false body = some ("$.\"it's\"".toList, ") = ?".toList) := by
  have hnested : isNested "p.it's" = true := by decide
  obtain ⟨column, segments, body, hsplit, -, -, htext, hread, -⟩ :=
    readLiteral_compile ⟨.sqlite, 255⟩ hnested " = ?".toList
  have hpieces : Text.splitOn separator "p.it's".toList = [['p'], "it's".toList] := by decide
  rw [hpieces] at hsplit
  cases hsplit
  exact ⟨hnested, body, htext, hread⟩

/-- A key with a backslash, where backslashes are escapes. -/
theorem readLiteral_compile_backslash :
    ∃ body, (compile .standard "p.a\\b").toList =
        "JSON_EXTRACT(`p`, ".toList ++ apostrophe :: body ∧
      readLiteral Dialect.standard.escapes body = some ("$.\"a\\b\"".toList, [')']) ∧
      "$.\"a\\b\"".toList ≠ (jsonPath ["a\\b".toList]).toList :=
  ⟨_, rfl, by decide, by decide⟩

end Path
end DocTable
