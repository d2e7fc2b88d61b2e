/-
# What is stored is what is handed back

To create a document is to fill in its defaults, to insert it as a row and to write the identity of
the row into it. The statement and the document that is handed back are both made of the document
with its defaults, so that they agree, except that the identity comes later. Where anything fails,
there is no identity yet: the document has got defaults, and nothing else has happened to it.

The synchronization that may come first executes structural statements only. The insertion is the
only one on record, and its number is the one that the store had ready before.
-/
import DocTable.Proofs.Codec.Stopping
import DocTable.Proofs.Model.Requests
import DocTable.Proofs.Query.Parameters
import DocTable.Proofs.Query.Unrestricted

namespace DocTable

/-! ## The statement of an insertion -/

/-- The text of the statement that inserts a row with columns of some names. -/
def Dialect.insertionText (d : Dialect) (table : String) (names : List String) : String :=
  if names.isEmpty then d.insertDefaults table
  else "INSERT INTO " ++ Dialect.quote table ++ " ("
    ++ String.intercalate ", " (names.map Dialect.quote) ++ ") VALUES ("
    ++ Statement.placeholders names.length ++ ")"

/-- A statement inserts entries as a row: it lists their keys in order, and its parameters are the
stored forms of their values. -/
structure Statement.Inserts (d : Dialect) (table : String) (row : Entries) (statement : Statement) :
    Prop where
  columns : ∃ names : List String, row.keys = names.map Value.text ∧
    statement.text = d.insertionText table names
  params : List.Forall₂ (fun e stored => Codec.encodeValue e.2 = .ok stored) row statement.params

/-- Whether a statement is an insertion. -/
def Statement.isInsertion (statement : Statement) : Bool :=
  "INSERT".toList.isPrefixOf statement.text.toList

lemma isInsertion_append (rest : String) (params : List Value) :
    Statement.isInsertion ⟨"INSERT INTO " ++ rest, params⟩ = true := by
  have hword : "INSERT".toList <+: "INSERT INTO ".toList := by decide
  rw [Statement.isInsertion, List.isPrefixOf_iff_prefix, String.toList_append]
  exact hword.trans (List.prefix_append _ _)

lemma Statement.Inserts.isInsertion {d : Dialect} {table : String} {row : Entries}
    {statement : Statement} (h : statement.Inserts d table row) : statement.isInsertion = true := by
  obtain ⟨names, -, htext⟩ := h.columns
  have hstatement : statement = ⟨d.insertionText table names, statement.params⟩ := by rw [← htext]
  rw [hstatement, Dialect.insertionText]
  split_ifs
  · rw [Dialect.insertDefaults, String.append_assoc]
    exact isInsertion_append _ _
  · simp only [String.append_assoc]
    exact isInsertion_append _ _

/-- A statement that starts as a structural one is no insertion. -/
lemma isInsertion_eq_false {text : String}
    (h : text.toList.head? = some 'C' ∨ text.toList.head? = some 'A') :
    (Statement.plain text).isInsertion = false := by
  rw [← Bool.not_eq_true, Statement.isInsertion, List.isPrefixOf_iff_prefix]
  rintro ⟨rest, hrest⟩
  have hfirst : text.toList.head? = some 'I' := by
    rw [Statement.plain] at hrest
    rw [← hrest]
    rfl
  rcases h with h | h <;> cases hfirst.symm.trans h

lemma eq_text_of_quoteValue {v : Value} {quoted : String} (h : Dialect.quoteValue v = .ok quoted) :
    ∃ name, v = .text name ∧ quoted = Dialect.quote name := by
  simp only [Dialect.quoteValue, bind_eq_ok_iff, pure_eq_ok, Except.ok.injEq] at h
  obtain ⟨name, hname, rfl⟩ := h
  cases v <;> cases hname
  exact ⟨name, rfl, rfl⟩

lemma quotedNames_eq_ok {pairs : List (Value × Value)} {columns : String}
    (h : quotedNames pairs "" = .ok columns) :
    ∃ names : List String, Entries.keys pairs = names.map Value.text ∧
      columns = String.intercalate ", " (names.map Dialect.quote) := by
  simp only [quotedNames, bind_eq_ok_iff, pure_eq_ok, Except.ok.injEq, String.append_empty,
    List.map_id_fun', id, mapM_eq_ok_iff] at h
  obtain ⟨quoted, hquoted, rfl⟩ := h
  suffices hnames : ∃ names : List String, Entries.keys pairs = names.map Value.text ∧
      quoted = names.map Dialect.quote by
    obtain ⟨names, hkeys, rfl⟩ := hnames
    exact ⟨names, hkeys, rfl⟩
  induction hquoted with
  | nil => exact ⟨[], rfl, rfl⟩
  | @cons pair _ _ _ hpair _ ih =>
    obtain ⟨names, hkeys, rfl⟩ := ih
    obtain ⟨name, hname, rfl⟩ := eq_text_of_quoteValue hpair
    refine ⟨name :: names, ?_, rfl⟩
    rw [List.map_cons, ← hname, ← hkeys]
    rfl

lemma compileInsert_eq_ok {d : Dialect} {table : String} {pairs : List (Value × Value)}
    {statement : Statement} (h : compileInsert d table pairs = .ok statement) :
    ∃ names : List String, Entries.keys pairs = names.map Value.text ∧
      statement.text = d.insertionText table names := by
  rw [compileInsert] at h
  split_ifs at h with hempty
  · cases h
    rw [List.isEmpty_iff.1 hempty]
    exact ⟨[], rfl, rfl⟩
  · simp only [bind_eq_ok_iff, pure_eq_ok, Except.ok.injEq] at h
    obtain ⟨columns, hcolumns, rfl⟩ := h
    obtain ⟨names, hkeys, rfl⟩ := quotedNames_eq_ok hcolumns
    have hlength : pairs.length = names.length := by
      rw [← List.length_map Prod.fst, ← List.length_map Value.text, ← hkeys]
      rfl
    refine ⟨names, hkeys, ?_⟩
    rw [Dialect.insertionText, if_neg, hlength]
    rw [List.isEmpty_iff, ← List.length_eq_zero_iff] at hempty ⊢
    exact hlength ▸ hempty

lemma encodeEntries_eq_ok {entries pairs : Entries} (h : Codec.encodeEntries entries = .ok pairs) :
    pairs.keys = entries.keys ∧
      List.Forall₂ (fun e stored => Codec.encodeValue e.2 = .ok stored) entries
        (pairs.map Prod.snd) := by
  induction entries generalizing pairs with
  | nil =>
    cases h
    exact ⟨rfl, .nil⟩
  | cons e rest ih =>
    simp only [Codec.encodeEntries, bind_eq_ok_iff, pure_eq_ok, Except.ok.injEq] at h
    obtain ⟨first, hfirst, others, hothers, rfl⟩ := h
    obtain ⟨hkeys, hvalues⟩ := ih hothers
    exact ⟨congrArg (e.1 :: ·) hkeys, .cons hfirst hvalues⟩

/-! ## What a synchronization leaves as it is -/

namespace Synchronizer

variable {σ α : Type} [Store σ] (t : Synchronizer) (f : σ → α)

/-- What the statements of some changes leave as it is, their application leaves. -/
lemma applyChanges_keeps {changes : List Change}
    (h : ∀ c ∈ changes, ∀ text, c.statement = some text →
      ∀ store, f (Store.execute (.plain text) store).2 = f store)
    (report : Report) (s : Surroundings σ) :
    f (t.applyChanges changes report s).2.store = f s.store := by
  induction changes generalizing report s with
  | nil => rfl
  | cons c rest ih =>
    obtain ⟨hc, hrest⟩ := List.forall_mem_cons.1 h
    rcases t.applyChange_cases c s with ⟨-, failure, s', happly, hstore⟩ | ⟨text, htext, hrun⟩
    · rw [applyChanges_cons_failed happly, ih hrest, hstore]
    · have hkept := hc text htext s.store
      rcases hrun with ⟨fault, failure, s', happly, hanswer⟩ | ⟨answer, s', happly, hanswer⟩
      all_goals rw [hanswer] at hkept
      · rw [applyChanges_cons_failed happly, ih hrest, ← hkept]
      · rw [applyChanges_cons_applied happly, ih hrest, ← hkept]

/-- What questions and structural statements leave as it is, a synchronization leaves. -/
lemma run_keeps (htable : ∀ s, f (Store.tableExists t.table s).2 = f s)
    (hcolumns : ∀ s, f (Store.describeColumns t.table s).2 = f s)
    (hstatement : ∀ text, text.toList.head? = some 'C' ∨ text.toList.head? = some 'A' →
      ∀ s, f (Store.execute (.plain text) s).2 = f s) (s : Surroundings σ) :
    f (t.run s).2.store = f s.store := by
  have hplanned := t.plan_keeps f htable hcolumns s.store
  rcases hplan : t.plan s.store with ⟨fault | ⟨existed, changes⟩, store⟩
  all_goals rw [hplan] at hplanned
  · rw [run, hplan]
    exact hplanned
  · obtain ⟨s', rfl, hrun⟩ := run_of_plan hplan
    rw [hrun, ← hplanned]
    exact t.applyChanges_keeps f
      (fun c hc text htext => hstatement text (head?_statement_eq hplan hc htext)) _ s'

end Synchronizer

namespace ScriptedStore

/-- What only insertions change about a scripted store: the number of the next row, how insertions
are answered, and which are on record. -/
def insertionState (s : ScriptedStore) : Int × Bool × List Statement :=
  (s.nextId, s.script.insertsGiveRows, s.executed.filter Statement.isInsertion)

lemma insertionState_execute {statement : Statement} (h : statement.isInsertion = false)
    (s : ScriptedStore) : (Store.execute statement s).2.insertionState = s.insertionState := by
  have hrecord : (s.record statement).insertionState = s.insertionState := by
    simp [insertionState, record, h]
  simp only [Store.execute, execute]
  split_ifs
  · exact hrecord
  · rw [← hrecord]
    simp only [answer]
    rw [Statement.isInsertion] at h
    simp only [h, Bool.false_eq_true, if_false, takeRows, takeCount]
    split_ifs <;> split <;> rfl

/-- An insertion that does not fail is answered with the number of the row. -/
lemma execute_insertion {statement : Statement} {s : ScriptedStore}
    (hinsertion : statement.isInsertion = true) (hwritten : s.script.insertsGiveRows = false)
    (hfails : s.fails statement = false) :
    Store.execute statement s =
      (.ok (.written (some s.nextId) 1), { s.record statement with nextId := s.nextId + 1 }) := by
  have hselects : "SELECT".toList.isPrefixOf statement.text.toList = false := by
    rw [Statement.isInsertion, List.isPrefixOf_iff_prefix] at hinsertion
    obtain ⟨rest, hrest⟩ := hinsertion
    rw [← hrest]
    rfl
  have hrecord : (s.record statement).fails statement = false := hfails
  have hscript : (s.record statement).script.insertsGiveRows = false := hwritten
  rw [Statement.isInsertion] at hinsertion
  simp only [Store.execute, execute, hrecord, answer, hselects, hinsertion, hscript, insertRow]
  rfl

/-- A statement that fails is on record, and nothing else has changed. -/
lemma execute_failing {statement : Statement} {s : ScriptedStore}
    (hfails : s.fails statement = true) :
    Store.execute statement s =
      (.error (.failure (.rejected failureMessage (.text statement.text) statement.params)),
        s.record statement) := by
  have hrecord : (s.record statement).fails statement = true := hfails
  simp only [Store.execute, execute, hrecord]
  rfl

end ScriptedStore

namespace Model

/-- A document with its defaults, and its entries in stored form, as a model inserts it. -/
def encoding (m : Model) (document : Value) (draws : Codec.Draws) : Codec.Encoding :=
  Codec.encodeDocument m.schema.fields document draws

/-- The statement that inserts a document, if there is one. -/
def insertion (m : Model) (document : Value) (draws : Codec.Draws) : Except Fault Statement :=
  (m.encoding document draws).pairs.bind fun pairs => compileInsert m.dialect m.table pairs

/-- To be ready changes nothing about the insertions, nor about what fails. -/
lemma ready_keeps (m : Model) (r : Running ScriptedStore) :
    (m.ready r).surroundings.store.insertionState = r.surroundings.store.insertionState ∧
      (m.ready r).surroundings.store.fails = r.surroundings.store.fails := by
  rw [ready]
  cases m.synchronize with
  | false => exact ⟨rfl, rfl⟩
  | true =>
    cases r.report with
    | some report => exact ⟨rfl, rfl⟩
    | none =>
      refine ⟨?_, (ScriptedStore.recorder.exists_trace m.synchronizer r.surroundings).2⟩
      exact m.synchronizer.run_keeps _ (fun _ => rfl) (fun _ => rfl)
        (fun text htext => ScriptedStore.insertionState_execute (isInsertion_eq_false htext)) _

/-- The store of a model that is ready does not depend on the draws. -/
lemma store_ready_withDraws (m : Model) (r : Running ScriptedStore) (draws : Codec.Draws) :
    (m.ready (r.withDraws draws)).surroundings.store = (m.ready r).surroundings.store := by
  have hstore : (r.withDraws draws).surroundings.store = r.surroundings.store := rfl
  rw [ready, ready]
  cases m.synchronize with
  | false => rfl
  | true =>
    rcases r with ⟨report | _, surroundings⟩
    · exact (m.synchronizer.run_congr hstore).2
    · rfl

/-! ## How a creation ends -/

section Insertion

variable {m : Model} {document : Value} {draws : Codec.Draws} {row : Entries}

lemma pairs_encoding_eq_ok (hrow : (m.encoding document draws).document = .map row)
    {pairs : List (Value × Value)} (h : (m.encoding document draws).pairs = .ok pairs) :
    (Codec.fillFields m.schema.fields document draws.anew).fault = none ∧
      Codec.encodeEntries row = .ok pairs := by
  rw [encoding, Codec.encodeDocument] at hrow h
  dsimp only at hrow h
  cases hfault : (Codec.fillFields m.schema.fields document draws.anew).fault with
  | some fault =>
    rw [hfault] at h
    cases h
  | none =>
    rw [hfault, hrow] at h
    exact ⟨rfl, h⟩

lemma inserts_of_insertion (hrow : (m.encoding document draws).document = .map row)
    {statement : Statement} (h : m.insertion document draws = .ok statement) :
    statement.Inserts m.dialect m.table row := by
  obtain ⟨pairs, hpairs, hinsert⟩ := bind_eq_ok_iff.1 h
  obtain ⟨hkeys, hvalues⟩ := encodeEntries_eq_ok (pairs_encoding_eq_ok hrow hpairs).2
  obtain ⟨names, hnames, htext⟩ := compileInsert_eq_ok hinsert
  exact ⟨⟨names, hkeys.symm.trans hnames, htext⟩, params_compileInsert hinsert ▸ hvalues⟩

/-- There is a statement if all values can be stored and all keys are texts. -/
lemma succeeds_insertion_iff (hrow : (m.encoding document draws).document = .map row) :
    Succeeds (m.insertion document draws) ↔
      Succeeds (m.encoding document draws).pairs ∧ ∀ key ∈ row.keys, key.isText = true := by
  refine succeeds_bind_iff fun pairs hpairs => ?_
  obtain ⟨hkeys, -⟩ := encodeEntries_eq_ok (pairs_encoding_eq_ok hrow hpairs).2
  rw [← hkeys, Entries.keys, List.forall_mem_map, compileInsert]
  split_ifs with hempty
  · rw [List.isEmpty_iff.1 hempty]
    simp
  · exact succeeds_bind_ok_iff.trans succeeds_quotedNames_iff

end Insertion

/-- A model has executed a statement after the synchronization, and it is the only insertion. -/
structure ExecutesLast (m : Model) (r : Running ScriptedStore) (statement : Statement)
    (after : Running ScriptedStore) : Prop where
  executed : after.surroundings.store.executed =
    (m.ready r).surroundings.store.executed ++ [statement]
  insertions : after.surroundings.store.executed.filter Statement.isInsertion =
    r.surroundings.store.executed.filter Statement.isInsertion ++ [statement]

/-- Entries into which an identity has been written. -/
structure Identified (row : Entries) (id : Int) (returned : Entries) : Prop where
  eq : returned = Entries.put (.text identityField) (.int id) row
  identity : Entries.get? (.text identityField) returned = some (.int id)
  others : ∀ e ∈ row, e.1.same (.text identityField) = false →
    Entries.get? e.1 returned = some e.2

/-- How the creation of a document that becomes a row ends, depending on its statement. -/
inductive Created (m : Model) (row : Entries) (r : Running ScriptedStore) :
    Except Fault Statement → Performed ScriptedStore → Prop
  /-- Without a statement the store is left alone. -/
  | refused {fault : Fault} {after : Running ScriptedStore}
      (hstore : after.surroundings.store = r.surroundings.store) :
      Created m row r (.error fault) ⟨.error fault, some (.map row), after⟩
  /-- The store rejects the statement. -/
  | rejected {statement : Statement} {after : Running ScriptedStore}
      (hinserts : statement.Inserts m.dialect m.table row)
      (hfails : r.surroundings.store.fails statement = true)
      (hlast : m.ExecutesLast r statement after) :
      Created m row r (.ok statement)
        ⟨.error (.failure (.rejected ScriptedStore.failureMessage (.text statement.text)
          statement.params)), some (.map row), after⟩
  /-- The row is stored, and the document gets the identity that the store had ready for it. -/
  | stored {statement : Statement} {returned : Entries} {after : Running ScriptedStore}
      (hinserts : statement.Inserts m.dialect m.table row)
      (hfails : r.surroundings.store.fails statement = false)
      (hlast : m.ExecutesLast r statement after)
      (hidentified : Identified row r.surroundings.store.nextId returned) :
      Created m row r (.ok statement) ⟨.ok (.map returned), some (.map returned), after⟩

lemma executesLast_of_record {m : Model} {r after : Running ScriptedStore} {statement : Statement}
    (hinsertion : statement.isInsertion = true)
    (h : after.surroundings.store.executed =
      (m.ready r).surroundings.store.executed ++ [statement]) :
    m.ExecutesLast r statement after := by
  refine ⟨h, ?_⟩
  have hkept := congrArg (fun state => state.2.2) (m.ready_keeps r).1
  simp only [ScriptedStore.insertionState] at hkept
  rw [h, List.filter_append, hkept, List.filter_singleton, hinsertion]
  rfl

lemma identified_put {row : Entries} (hkeys : Entries.ProperKeys row.keys) (id : Int) :
    Identified row id (Entries.put (.text identityField) (.int id) row) := by
  refine ⟨rfl, Entries.get?_put rfl _ _, fun e he hne => ?_⟩
  have hkey : e.1.canBeKey = true := hkeys.canBeKey _ (List.mem_map_of_mem he)
  rw [Entries.get?_put_of_not_same hkeys rfl hkey (by rwa [Value.same_symm rfl hkey])]
  exact Entries.get?_of_mem hkeys hkey he (Value.same_refl hkey)

section Performed

variable {m : Model} {document : Value} {r : Running ScriptedStore}

lemma performCreate_of_rejected {statement : Statement} {fault : Fault}
    {after : Running ScriptedStore} (h : m.insertion document r.surroundings.draws = .ok statement)
    (hexecute : m.execute statement
      (r.withDraws (m.encoding document r.surroundings.draws).draws) = (.error fault, after)) :
    m.performCreate document r =
      ⟨.error fault, some (m.encoding document r.surroundings.draws).document, after⟩ := by
  rw [insertion, encoding] at h
  rw [encoding, Running.withDraws] at hexecute
  simp only [performCreate, h, hexecute]
  rfl

lemma performCreate_of_written {statement : Statement} {row : Entries} {id count : Int}
    {after : Running ScriptedStore} (h : m.insertion document r.surroundings.draws = .ok statement)
    (hrow : (m.encoding document r.surroundings.draws).document = .map row)
    (hexecute : m.execute statement
      (r.withDraws (m.encoding document r.surroundings.draws).draws) =
        (.ok (.written (some id) count), after)) :
    m.performCreate document r =
      ⟨.ok (.map (Entries.put (.text identityField) (.int id) row)),
        some (.map (Entries.put (.text identityField) (.int id) row)), after⟩ := by
  rw [insertion, encoding] at h
  rw [encoding] at hrow
  rw [encoding, Running.withDraws] at hexecute
  simp only [performCreate, h, hexecute, hrow]
  rfl

lemma created_performCreate {row : Entries}
    (hwritten : r.surroundings.store.script.insertsGiveRows = false)
    (hrow : (m.encoding document r.surroundings.draws).document = .map row)
    (hkeys : Entries.ProperKeys row.keys) :
    m.Created row r (m.insertion document r.surroundings.draws) (m.performCreate document r) := by
  obtain ⟨hstate, hfailing⟩ := m.ready_keeps r
  have hnext := congrArg Prod.fst hstate
  have hscript := congrArg (fun state => state.2.1) hstate
  simp only [ScriptedStore.insertionState] at hnext hscript
  have hstore := m.store_ready_withDraws r (m.encoding document r.surroundings.draws).draws
  cases hinsertion : m.insertion document r.surroundings.draws with
  | error fault =>
    rw [insertion, encoding] at hinsertion
    rw [encoding] at hrow
    simp only [performCreate, hinsertion, hrow]
    exact .refused rfl
  | ok statement =>
    have hinserts := inserts_of_insertion hrow hinsertion
    have hinsert := hinserts.isInsertion
    cases hfails : r.surroundings.store.fails statement with
    | true =>
      have hanswer := ScriptedStore.execute_failing (hfailing ▸ hfails)
      rw [performCreate_of_rejected hinsertion
        (by rw [execute, Surroundings.execute, hstore, hanswer]), hrow]
      exact .rejected hinserts hfails (executesLast_of_record hinsert rfl)
    | false =>
      have hanswer := ScriptedStore.execute_insertion hinsert (hscript.trans hwritten)
        (hfailing ▸ hfails)
      rw [performCreate_of_written hinsertion hrow
        (by rw [execute, Surroundings.execute, hstore, hanswer]), hnext]
      exact .stored hinserts hfails (executesLast_of_record hinsert rfl) (identified_put hkeys _)

end Performed

/-- Whatever document is created, it is left as one row with its defaults, and the statement, the
record and the result are those of this row. On success the row is stored, and it is handed back
with its identity. A failure leaves the row without one, though the defaults may be those of the
beginning of the fields only. There is a statement if the row can be encoded and all its keys are
texts. -/
theorem performCreate_created (m : Model) (hfields : m.schema.fields.Proper) {entries : Entries}
    (hentries : (Value.map entries).Proper) (r : Running ScriptedStore)
    (hwritten : r.surroundings.store.script.insertsGiveRows = false) :
    ∃ (part : Fields) (row : Entries), part.Beginning m.schema.fields ∧
      Codec.Extends (some part) (.map entries) (.map row) ∧
      (m.schema.fields.get? (.text identityField) = none →
        Entries.get? (.text identityField) row = Entries.get? (.text identityField) entries) ∧
      (m.encoding (.map entries) r.surroundings.draws).document = .map row ∧
      (Succeeds (m.encoding (.map entries) r.surroundings.draws).pairs →
        part = m.schema.fields) ∧
      (Succeeds (m.insertion (.map entries) r.surroundings.draws) ↔
        Succeeds (m.encoding (.map entries) r.surroundings.draws).pairs ∧
          ∀ key ∈ Entries.keys row, key.isText = true) ∧
      m.Created row r (m.insertion (.map entries) r.surroundings.draws)
        (m.performCreate (.map entries) r) := by
  obtain ⟨part, row, hpart, hrow, hextends, hall, hget⟩ :=
    Codec.exists_beginning_fillFields hfields hentries r.surroundings.draws.anew
  have hdocument : (m.encoding (.map entries) r.surroundings.draws).document = .map row := hrow
  have hkeys : Entries.ProperKeys (Entries.keys row) := by
    obtain ⟨after, hafter, hproper⟩ := Codec.isProperMap_fillFields
      (fun f hf => hfields.names.canBeKey _ (List.mem_map_of_mem hf))
      ⟨entries, rfl, (Value.proper_map_iff.1 hentries).1⟩ r.surroundings.draws.anew
    cases hrow.symm.trans hafter
    exact hproper
  refine ⟨part, row, hpart, hextends, hget _ rfl, hdocument, ?_,
    succeeds_insertion_iff hdocument, created_performCreate hwritten hdocument hkeys⟩
  rintro ⟨pairs, hpairs⟩
  exact hall (pairs_encoding_eq_ok hdocument hpairs).1

/-- A model of users with defaults at two depths. -/
def ofProfiles : Model :=
  { number := 0
    name := "User"
    schema := ⟨"User", Codec.profileFields⟩
    dialect := ⟨.sqlite, 255⟩
    table := "users"
    synchronize := true }

/-- A document that holds an identity of its own, and lacks a default at each depth. -/
def importedDocument : Entries := (.text "id", .int 7) :: Codec.profileDocument

lemma importedDocument_proper : (Value.map importedDocument).Proper :=
  .map ⟨by decide, by decide⟩
    (List.forall_mem_cons.2 ⟨.leaf rfl, (Value.proper_map_iff.1 Codec.profileDocument_proper).2⟩)

/-- The imported document with its defaults. -/
def importedRow : Entries :=
  [(.text "id", .int 7), (.text "extra", .map [(.text "level", .int 3)]),
    (.text "profile", .map [(.text "level", .null), (.text "ok", .bool false)]),
    (.text "name", .null), (.text "tags", .list [])]

/-- The identity that the document held is stored, and the one of the row is handed back. -/
theorem performCreate_created_imported :
    ofProfiles.Created importedRow ⟨none, .start Synchronizer.partialStore⟩
      (.ok ⟨"INSERT INTO `users` (`id`, `extra`, `profile`, `name`, `tags`) VALUES (?, ?, ?, ?, ?)",
        [.int 7, .text "\x7b\"level\":3\x7d",
          .text "\x7b\"level\":null,\"ok\":false\x7d", .null, .text "[]"]⟩)
      (ofProfiles.performCreate (.map importedDocument) ⟨none, .start Synchronizer.partialStore⟩) ∧
    (ofProfiles.performCreate (.map importedDocument)
        ⟨none, .start Synchronizer.partialStore⟩).result =
      .ok (.map ((.text "id", .int 1) :: importedRow.tail)) := by
  obtain ⟨part, row, -, -, -, hdocument, -, -, hcreated⟩ :=
    ofProfiles.performCreate_created Codec.profileFields_proper importedDocument_proper
      ⟨none, .start Synchronizer.partialStore⟩ rfl
  have hrow : importedRow = row := Value.map.inj hdocument
  exact ⟨hrow ▸ hcreated, rfl⟩

end Model

end DocTable
