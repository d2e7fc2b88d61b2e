/-
# What a statement of structure declares

The text of a statement that changes the structure of a store tells what it declares. Each of its
parts can be told from what follows it: a quoted name ends at the first quote mark that is not
doubled, and the types of fields start with different letters. So a list of declarations between
commas has one reading only, and no field can be named so that it adds a column, hides one or merges
two of them.
-/
import DocTable.Proofs.Query.PathCode
import DocTable.Proofs.Sync.Plan

namespace DocTable

open DocTable.Path (quote_append_inj)

/-! ## Declarations of columns -/

namespace Column

/-- The letter with which the type of a field starts. -/
def initial : FieldKind → Char
  | .text => 'V'
  | .integer => 'I'
  | .boolean => 'B'
  | .temporal => 'D'
  | .structured => 'J'

lemma initial_injective : Function.Injective initial := by
  intro k k' h
  cases k <;> cases k' <;> first | rfl | exact absurd h (by decide)

lemma head?_storageType (length : Int) (k : FieldKind) (x : List Char) :
    ((storageType length k).toList ++ x).head? = some (initial k) := by
  cases k <;> simp [storageType, initial]

/-- The type of a field can be told from what follows it. -/
lemma storageType_append_inj {length : Int} {k k' : FieldKind} {x y : List Char}
    (h : (storageType length k).toList ++ x = (storageType length k').toList ++ y) :
    k = k' ∧ x = y := by
  have hinitial : initial k = initial k' := by
    have hhead := congrArg List.head? h
    rw [head?_storageType, head?_storageType] at hhead
    exact Option.some.inj hhead
  rw [initial_injective hinitial] at h
  exact ⟨initial_injective hinitial, List.append_cancel_left h⟩

end Column

namespace Dialect

/-- A quoted name can be told from a text behind it that starts with a blank. -/
lemma quote_blank_inj {a b separator separator' : String} {x y : List Char}
    (hblank : separator.toList.head? = some ' ') (hblank' : separator'.toList.head? = some ' ')
    (h : (quote a).toList ++ (separator.toList ++ x) =
      (quote b).toList ++ (separator'.toList ++ y)) :
    a = b ∧ separator.toList ++ x = separator'.toList ++ y := by
  refine quote_append_inj ?_ ?_ h
  · rw [List.head?_append, hblank, Option.some_or]
    decide
  · rw [List.head?_append, hblank', Option.some_or]
    decide

lemma columnDefinition_append_inj {column column' type type' : String} {x y : List Char}
    (h : (columnDefinition column type).toList ++ x =
      (columnDefinition column' type').toList ++ y) :
    column = column' ∧ type.toList ++ x = type'.toList ++ y := by
  simp only [columnDefinition, String.toList_append, List.append_assoc] at h
  obtain ⟨hcolumn, h⟩ := quote_blank_inj rfl rfl h
  exact ⟨hcolumn, List.append_cancel_left h⟩

lemma columnDefinition_inj {column column' type type' : String}
    (h : columnDefinition column type = columnDefinition column' type') :
    column = column' ∧ type = type' := by
  have happend : (columnDefinition column type).toList ++ [] =
      (columnDefinition column' type').toList ++ [] := by rw [h]
  obtain ⟨hcolumn, htype⟩ := columnDefinition_append_inj happend
  exact ⟨hcolumn, String.toList_inj.1 (List.append_cancel_right htype)⟩

/-- The declaration of a field tells its name and its type, and can be told from what follows it. -/
lemma definitionOf_append_inj {d : Dialect} {f f' : String × Descriptor} {x y : List Char}
    (h : (d.definitionOf f).toList ++ x = (d.definitionOf f').toList ++ y) :
    (f.1, f.2.kind) = (f'.1, f'.2.kind) ∧ x = y := by
  obtain ⟨hname, h⟩ := columnDefinition_append_inj h
  obtain ⟨hkind, hrest⟩ := Column.storageType_append_inj h
  exact ⟨by rw [hname, hkind], hrest⟩

end Dialect

/-! ## Creations -/

/-- The columns that declared fields ask for, by name and type. -/
def askedColumns (declared : List (String × Descriptor)) : List (String × FieldKind) :=
  declared.map fun f => (f.1, f.2.kind)

lemma toList_intercalate_cons (separator first : String) (rest : List String) :
    (String.intercalate separator (first :: rest)).toList =
      first.toList ++ rest.flatMap fun s => separator.toList ++ s.toList := by
  induction rest generalizing first with
  | nil => simp
  | cons second rest ih =>
    rw [String.intercalate_cons_cons, String.toList_append, ih, String.toList_append,
      List.flatMap_cons]
    simp only [List.append_assoc]

lemma Dialect.toList_createTable (d : Dialect) (table : String) (definitions : List String) :
    (d.createTable table definitions).toList =
      "CREATE TABLE ".toList ++ ((quote table).toList ++ (" (".toList ++
        ((d.identityColumn "id").toList ++
          ((definitions.flatMap fun s => ", ".toList ++ s.toList) ++ ")".toList)))) := by
  have hform : d.createTable table definitions = "CREATE TABLE " ++ quote table ++ " (" ++
      String.intercalate ", " (d.identityColumn "id" :: definitions) ++ ")" := rfl
  rw [hform]
  simp only [String.toList_append, List.append_assoc, toList_intercalate_cons]

/-- Declarations, each after a comma, up to a parenthesis. -/
lemma askedColumns_inj {d : Dialect} {declared declared' : List (String × Descriptor)}
    (h : (declared.flatMap fun f => ", ".toList ++ (d.definitionOf f).toList) ++ ")".toList =
      (declared'.flatMap fun f => ", ".toList ++ (d.definitionOf f).toList) ++ ")".toList) :
    askedColumns declared = askedColumns declared' := by
  induction declared generalizing declared' with
  | nil =>
    cases declared' with
    | nil => rfl
    | cons f' declared' => simp at h
  | cons f declared ih =>
    cases declared' with
    | nil => simp at h
    | cons f' declared' =>
      simp only [List.flatMap_cons, List.append_assoc] at h
      obtain ⟨hfirst, hrest⟩ := Dialect.definitionOf_append_inj (List.append_cancel_left h)
      rw [askedColumns, List.map_cons, hfirst]
      exact congrArg _ (ih hrest)

lemma ownColumns_eq {declared : List (String × Descriptor)}
    (h : ∀ f ∈ declared, f.1 ≠ identityField) : ownColumns declared = declared :=
  List.filter_eq_self.2 fun f hf => decide_eq_true (h f hf)

/-- The statement that creates a table tells the table, and the columns that are asked for besides
the identity. -/
lemma creation_inj {d : Dialect} {table table' : String}
    {declared declared' : List (String × Descriptor)}
    (h : (creation d table declared).statement = (creation d table' declared').statement) :
    table = table' ∧ askedColumns (ownColumns declared) = askedColumns (ownColumns declared') := by
  replace h := congrArg String.toList (Option.some.inj h)
  rw [Dialect.toList_createTable, Dialect.toList_createTable, List.flatMap_map,
    List.flatMap_map] at h
  obtain ⟨htable, h⟩ := Dialect.quote_blank_inj rfl rfl (List.append_cancel_left h)
  -- the declaration of the identity only depends on the dialect
  exact ⟨htable, askedColumns_inj (List.append_cancel_left (List.append_cancel_left h))⟩

/-! ## Alterations -/

/-- How a change of a column is introduced. -/
def ChangeKind.verb : ChangeKind → String
  | columnWidened => " MODIFY COLUMN "
  | _ => " ADD COLUMN "

/-- The kind of a change is told by its introduction, unless a table is created. -/
lemma ChangeKind.eq_of_verb_eq {kind kind' : ChangeKind} (hkind : kind ≠ .tableCreated)
    (hkind' : kind' ≠ .tableCreated) (h : kind.verb = kind'.verb) : kind = kind' := by
  cases kind <;> cases kind' <;>
    first | rfl | exact absurd rfl hkind | exact absurd rfl hkind' | exact absurd h (by decide)

/-- The statement that changes a column of a table. -/
def alteration (kind : ChangeKind) (table column type : String) : String :=
  "ALTER TABLE " ++ Dialect.quote table ++ kind.verb ++ Dialect.columnDefinition column type

lemma toList_alteration (kind : ChangeKind) (table column type : String) :
    (alteration kind table column type).toList =
      "ALTER TABLE ".toList ++ ((Dialect.quote table).toList ++
        (kind.verb.toList ++ (Dialect.columnDefinition column type).toList)) := by
  have hform : alteration kind table column type =
      "ALTER TABLE " ++ Dialect.quote table ++ kind.verb ++
        Dialect.columnDefinition column type := rfl
  rw [hform]
  simp only [String.toList_append, List.append_assoc]

lemma ChangeKind.verb_append_inj {kind kind' : ChangeKind} {x y : List Char}
    (h : kind.verb.toList ++ x = kind'.verb.toList ++ y) : kind.verb = kind'.verb ∧ x = y := by
  have hverb : kind.verb = kind'.verb := by
    cases kind <;> cases kind' <;> first | rfl | simp [verb] at h
  rw [hverb] at h
  exact ⟨hverb, List.append_cancel_left h⟩

/-- The statement that changes a column tells the table, the column and its type. -/
lemma alteration_inj {kind kind' : ChangeKind} {table table' column column' type type' : String}
    (h : alteration kind table column type = alteration kind' table' column' type') :
    kind.verb = kind'.verb ∧ table = table' ∧ column = column' ∧ type = type' := by
  have hblank : ∀ kind : ChangeKind, kind.verb.toList.head? = some ' ' := by
    intro kind
    cases kind <;> rfl
  replace h := congrArg String.toList h
  rw [toList_alteration, toList_alteration] at h
  obtain ⟨htable, h⟩ :=
    Dialect.quote_blank_inj (hblank kind) (hblank kind') (List.append_cancel_left h)
  obtain ⟨hverb, h⟩ := ChangeKind.verb_append_inj h
  obtain ⟨hcolumn, htype⟩ := Dialect.columnDefinition_inj (String.toList_inj.1 h)
  exact ⟨hverb, htable, hcolumn, htype⟩

/-- The statement of a change that a field needs, if the dialect has one, is an alteration of the
column of the field to the type of the field. -/
lemma statement_of_needed? {d : Dialect} {table : String} {columns : List Column}
    {f : String × Descriptor} {c : Change} (h : needed? d table columns f = some c) :
    c.kind ≠ .tableCreated ∧ c.newType = some (d.storageOf f.2) ∧
      ∀ text, c.statement = some text → text = alteration c.kind table f.1 (d.storageOf f.2) := by
  obtain ⟨-, ⟨-, rfl⟩ | ⟨column, -, -, rfl⟩⟩ := needed?_eq_some h
  · exact ⟨by simp [addition], rfl, fun text htext => (Option.some.inj htext).symm⟩
  · refine ⟨by simp [widening], rfl, fun text htext => ?_⟩
    simp only [widening, Dialect.modifyColumn?] at htext
    split at htext
    · cases htext
    · exact (Option.some.inj htext).symm

/-- Two changes that fields need and that have the same statement are of one kind, and change the
column of one name of the same table to the same type. -/
lemma needed?_inj {d : Dialect} {table table' : String} {columns columns' : List Column}
    {f f' : String × Descriptor} {c c' : Change} (h : needed? d table columns f = some c)
    (h' : needed? d table' columns' f' = some c') {text : String} (htext : c.statement = some text)
    (htext' : c'.statement = some text) :
    table = table' ∧ c.kind = c'.kind ∧ c.column = c'.column ∧ c.newType = c'.newType := by
  obtain ⟨hkind, hnew, halteration⟩ := statement_of_needed? h
  obtain ⟨hkind', hnew', halteration'⟩ := statement_of_needed? h'
  obtain ⟨hverb, htable, hcolumn, htype⟩ :=
    alteration_inj ((halteration text htext).symm.trans (halteration' text htext'))
  refine ⟨htable, ChangeKind.eq_of_verb_eq hkind hkind' hverb, ?_, ?_⟩
  · rw [column_of_needed? h, column_of_needed? h', hcolumn]
  · rw [hnew, hnew', htype]

/-! ## Plans -/

/-- A plan for declared fields can be made, whether the table exists or not. The statement that
creates a table tells the table and the fields, by name and type and in order; a statement that
changes a column tells the table, the column and its type. -/
theorem plans_determined_by_statements (d : Dialect) {table table' : String}
    {declared declared' : List (String × Descriptor)}
    (hdeclared : ∀ f ∈ declared, f.1 ≠ identityField)
    (hdeclared' : ∀ f ∈ declared', f.1 ≠ identityField) :
    (∃ c c' text text', planCreate d table (.named declared) = .ok [c] ∧
      planCreate d table' (.named declared') = .ok [c'] ∧
      c.statement = some text ∧ c'.statement = some text' ∧
      (text = text' → table = table' ∧ askedColumns declared = askedColumns declared')) ∧
    ∀ columns columns', ∃ changes changes',
      planAlter d table columns (.named declared) = .ok changes ∧
      planAlter d table' columns' (.named declared') = .ok changes' ∧
      ∀ c ∈ changes, ∀ c' ∈ changes', ∀ text,
        c.statement = some text → c'.statement = some text →
          table = table' ∧ c.kind = c'.kind ∧ c.column = c'.column ∧ c.newType = c'.newType := by
  constructor
  · refine ⟨_, _, _, _, planCreate_named d table declared, planCreate_named d table' declared', rfl,
      rfl, fun htext => ?_⟩
    obtain ⟨htable, hasked⟩ := creation_inj (congrArg some htext)
    rw [ownColumns_eq hdeclared, ownColumns_eq hdeclared'] at hasked
    exact ⟨htable, hasked⟩
  · intro columns columns'
    refine ⟨_, _, planAlter_named d table columns declared,
      planAlter_named d table' columns' declared', fun c hc c' hc' text htext htext' => ?_⟩
    obtain ⟨f, -, hneeded⟩ := List.mem_filterMap.1 hc
    obtain ⟨f', -, hneeded'⟩ := List.mem_filterMap.1 hc'
    exact needed?_inj hneeded hneeded' htext htext'

/-- A field that is named like the declarations of two columns. -/
def mergingFields : List (String × Descriptor) :=
  [("a\x60 VARCHAR(255), \x60b", .plain .text none)]

/-- Two fields whose declarations are in the name of the one before. -/
def mergedFields : List (String × Descriptor) :=
  [("a", .plain .text none), ("b", .plain .text none)]

/-- The tables of one field that is named like two columns and of these two are created by different
statements. -/
theorem plans_determined_by_statements_merging :
    (∀ f ∈ mergingFields, f.1 ≠ identityField) ∧ (∀ f ∈ mergedFields, f.1 ≠ identityField) ∧
    ∃ c c' text text', planCreate .standard "t" (.named mergingFields) = .ok [c] ∧
      planCreate .standard "t" (.named mergedFields) = .ok [c'] ∧
      c.statement = some text ∧ c'.statement = some text' ∧ text ≠ text' := by
  have hmerging : ∀ f ∈ mergingFields, f.1 ≠ identityField := by decide
  have hmerged : ∀ f ∈ mergedFields, f.1 ≠ identityField := by decide
  obtain ⟨⟨c, c', text, text', hc, hc', htext, htext', hdetermined⟩, -⟩ :=
    @plans_determined_by_statements .standard "t" "t" _ _ hmerging hmerged
  refine ⟨hmerging, hmerged, c, c', text, text', hc, hc', htext, htext', fun hsame => ?_⟩
  exact absurd (hdetermined hsame).2 (by decide)

end DocTable
