/-
# Sequences of requests to a model

A model is asked to be ready, and it is asked for operations, one after another; each is awaited
before the next. What the store has recorded at the end is the trace of one synchronization, if
there has been one at all, and then what the operations have executed: one statement for each, less
those that fail before they execute anything and the updates without assignments. Whether an
operation fails is decided by its arguments, by what the store says to its one statement and by what
can be made of the answer, never by what came of the synchronization.

A model that is synchronized when it is made is one whose first request is to be ready. A selection
that is given something to call for its filter is a call with a callback and no request; where one
asks for the first document its result can be awaited as well, and the filter is absent.

The invariant goes along with a transcript of the requests so far. It says where the statements of
the operations start: after the one synchronization, or at the very start as long as there has been
none. In the second case nothing has touched the store unless the model is never synchronized.
-/
import DocTable.Proofs.Model.Intent
import DocTable.Proofs.Sync.Accounting

namespace DocTable

/-- What a model is asked for. -/
inductive Request where
  /-- To be ready. -/
  | ready
  /-- An operation, the result of which is awaited. -/
  | operation (operation : Operation)

/-- What comes of a request. -/
inductive Response where
  /-- The report of the synchronization, if there has been one. -/
  | report (report : Option Report)
  /-- The result of an operation. -/
  | result (result : Except Fault Value)

namespace Model

variable {σ : Type} [Store σ]

/-- Does what a request asks for. -/
def serve (m : Model) (request : Request) (r : Running σ) : Response × Running σ :=
  match request with
  | .ready => (.report (m.ready r).report, m.ready r)
  | .operation operation =>
    let (result, r) := m.await operation r
    (.result result, r)

/-- Does what requests ask for, one after another. -/
def serveAll (m : Model) : List Request → Running σ → List Response × Running σ
  | [], r => ([], r)
  | request :: requests, r =>
    let (response, r) := m.serve request r
    let (responses, r) := m.serveAll requests r
    (response :: responses, r)

lemma ofCompiled_ne (statement : Except Fault Statement)
    (conclude : Answer → Except Fault Value) (v : Value) :
    Intent.ofCompiled statement conclude ≠ .ends (.ok v) := by
  intro h
  cases statement <;> cases h

/-- A selection, once it is called, is no work that ends well without the store. -/
lemma intent_ne_of_prepare {m : Model} {draws : Codec.Draws} {operation : Operation}
    {query : Except Fault Query} {work : Query → Work} {present : List Value → Value}
    (hprepare : m.prepare operation = (do return work (← query)))
    (hwork : ∀ q, m.workIntent draws (work q) = m.queryIntent q present) (v : Value) :
    m.intent draws operation ≠ .ends (.ok v) := by
  rw [intent, hprepare]
  cases query with
  | error fault =>
    intro h
    cases h
  | ok query =>
    simp only [ok_bind, pure_eq_ok, hwork, queryIntent]
    intro h
    split at h <;> cases h

/-- An operation ends well without the store only as an update that assigns nothing. -/
lemma exists_update_of_intent {m : Model} {draws : Codec.Draws} {operation : Operation} {v : Value}
    (h : m.intent draws operation = .ends (.ok v)) :
    ∃ conditions changes single, operation = .update conditions changes single ∧
      assignments changes = .ok [] ∧ v = .outcome none 0 := by
  cases operation with
  | create document => exact absurd h (ofCompiled_ne _ _ v)
  | find conditions calls => exact absurd h (intent_ne_of_prepare rfl (fun _ => rfl) v)
  | findFirst conditions calls => exact absurd h (intent_ne_of_prepare rfl (fun _ => rfl) v)
  | findById id => exact absurd h (intent_ne_of_prepare rfl (fun _ => rfl) v)
  | update conditions changes single =>
    simp only [intent, prepare, workIntent] at h
    rcases hassigned : assignments changes with fault | _ | ⟨pair, pairs⟩
    · rw [hassigned] at h
      cases h
    · rw [hassigned] at h
      cases h
      exact ⟨conditions, changes, single, rfl, hassigned, rfl⟩
    · rw [hassigned] at h
      exact absurd h (ofCompiled_ne _ _ v)
  | delete conditions single => exact absurd h (ofCompiled_ne _ _ v)
  | aggregate pipeline => exact absurd h (ofCompiled_ne _ _ v)

end Model

/-! ## A synchronization depends on the store alone -/

namespace Synchronizer

variable {σ : Type} [Store σ] (t : Synchronizer) {s s' : Surroundings σ}

lemma applyChange_congr (c : Change) (h : s.store = s'.store) :
    (t.applyChange c s).1 = (t.applyChange c s').1 ∧
      (t.applyChange c s).2.store = (t.applyChange c s').2.store := by
  rw [applyChange, applyChange]
  cases c.statement with
  | none => exact ⟨rfl, h⟩
  | some text =>
    simp only [Surroundings.execute, h]
    rcases Store.execute (.plain text) s'.store with ⟨fault | answer, store⟩
    · exact ⟨rfl, rfl⟩
    · exact ⟨rfl, rfl⟩

lemma applyChanges_congr (changes : List Change) (report : Report) (h : s.store = s'.store) :
    (t.applyChanges changes report s).1 = (t.applyChanges changes report s').1 ∧
      (t.applyChanges changes report s).2.store = (t.applyChanges changes report s').2.store := by
  induction changes generalizing report s s' with
  | nil => exact ⟨rfl, h⟩
  | cons c rest ih =>
    obtain ⟨hfailure, hstore⟩ := t.applyChange_congr c h
    rcases hnext : t.applyChange c s with ⟨outcome, next⟩
    rcases hnext' : t.applyChange c s' with ⟨outcome', next'⟩
    rw [hnext, hnext'] at hfailure hstore
    obtain rfl : outcome = outcome' := hfailure
    rw [applyChanges, applyChanges, hnext, hnext']
    cases outcome with
    | none => exact ih _ hstore
    | some failure => exact ih _ hstore

/-- What is reported of a synchronization, and the store after it, depend on the store before. -/
lemma run_congr (h : s.store = s'.store) :
    (t.run s).1 = (t.run s').1 ∧ (t.run s).2.store = (t.run s').2.store := by
  rw [run, run, h]
  rcases t.plan s'.store with ⟨fault | ⟨existed, changes⟩, store⟩
  · exact ⟨rfl, rfl⟩
  · exact t.applyChanges_congr changes _ rfl

end Synchronizer

namespace Recorder

variable {σ : Type} [Store σ] (rec : Recorder σ)

/-- A synchronization adds its trace to the record, and changes nothing about what fails. -/
lemma exists_trace (t : Synchronizer) (s : Surroundings σ) :
    (∃ trace, rec.executed (t.run s).2.store = rec.executed s.store ++ trace) ∧
      rec.fails (t.run s).2.store = rec.fails s.store := by
  have hexecuted := t.plan_keeps rec.executed (rec.executed_tableExists t.table)
    (rec.executed_describeColumns t.table) s.store
  have hfails := t.plan_keeps rec.fails (rec.fails_tableExists t.table)
    (rec.fails_describeColumns t.table) s.store
  rcases hplan : t.plan s.store with ⟨fault | ⟨existed, changes⟩, store⟩
  · rw [hplan] at hexecuted hfails
    rw [Synchronizer.run, hplan]
    exact ⟨⟨[], by rw [List.append_nil]; exact hexecuted⟩, hfails⟩
  · rw [hplan] at hexecuted hfails
    obtain ⟨s', rfl, hrun⟩ := Synchronizer.run_of_plan hplan
    have haccounts := rec.accounts_applyChanges t changes (.start t.table existed) s'
    rw [← hrun] at haccounts
    have htrace := haccounts.executed
    simp only [hexecuted] at htrace
    exact ⟨⟨_, htrace⟩, haccounts.fails.trans hfails⟩

end Recorder

/-! ## Transcripts -/

/-- A request with what it has executed and what has come of it. -/
structure Entry where
  /-- The request. -/
  request : Request
  /-- The statements that it has executed, without those of a synchronization. -/
  statements : List Statement
  /-- What has come of it. -/
  response : Response

variable {σ : Type} [Store σ]

/-- How an entry of a transcript can come about in surroundings that a model starts from. An
operation ends before it executes anything, assigns nothing, or executes exactly one statement. The
store rejects those statements that it would have rejected at the start. -/
inductive Entry.Arises (rec : Recorder σ) (m : Model) (s : Surroundings σ) : Entry → Prop
  | ready :
      Arises rec m s
        ⟨.ready, [], .report (if m.synchronize then some (m.synchronizer.run s).1 else none)⟩
  | refused {operation : Operation} {draws : Codec.Draws} {fault : Fault}
      (h : m.intent draws operation = .ends (.error fault)) :
      Arises rec m s ⟨.operation operation, [], .result (.error fault)⟩
  | unstated {operation : Operation} {draws : Codec.Draws} {fault : Fault}
      (h : m.intent draws operation = .waits fault) :
      Arises rec m s ⟨.operation operation, [], .result (.error fault)⟩
  | unassigned {conditions changes : Value} {single : Bool}
      (h : Model.assignments changes = .ok []) :
      Arises rec m s
        ⟨.operation (.update conditions changes single), [], .result (.ok (.outcome none 0))⟩
  | rejected {operation : Operation} {draws : Codec.Draws} {statement : Statement}
      {conclude : Answer → Except Fault Value} {store : σ} {fault : Fault}
      (h : m.intent draws operation = .executes statement conclude)
      (hfails : rec.fails s.store statement = true)
      (hanswer : (Store.execute statement store).1 = .error fault) :
      Arises rec m s ⟨.operation operation, [statement], .result (.error fault)⟩
  | answered {operation : Operation} {draws : Codec.Draws} {statement : Statement}
      {conclude : Answer → Except Fault Value} {store : σ} {answer : Answer}
      (h : m.intent draws operation = .executes statement conclude)
      (hfails : rec.fails s.store statement = false)
      (hanswer : (Store.execute statement store).1 = .ok answer) :
      Arises rec m s ⟨.operation operation, [statement], .result (conclude answer)⟩

/-- The store from which the statements of the operations start: the one that the synchronization
has left, or the first one as long as there has been none. -/
def Running.opened (m : Model) (s : Surroundings σ) (r : Running σ) : σ :=
  match r.report with
  | none => s.store
  | some _ => (m.synchronizer.run s).2.store

/-- A model at work that has come from some surroundings through the requests of a transcript. -/
structure Follows (rec : Recorder σ) (m : Model) (s : Surroundings σ) (transcript : List Entry)
    (r : Running σ) : Prop where
  /-- There is a report only of the one synchronization. -/
  report : ∀ report, r.report = some report →
    m.synchronize = true ∧ report = (m.synchronizer.run s).1
  /-- The record has the statements of the operations in their order. -/
  executed : rec.executed r.surroundings.store =
    rec.executed (r.opened m s) ++ transcript.flatMap Entry.statements
  /-- What fails is what failed at the start. -/
  fails : rec.fails r.surroundings.store = rec.fails s.store
  /-- What is to be synchronized and has not been has executed nothing. -/
  waiting : m.synchronize = true → r.report = none →
    r.surroundings.store = s.store ∧
      ∀ e ∈ transcript, e.request ≠ .ready ∧ e.statements = []
  /-- Each entry has come about in a proper way. -/
  arises : ∀ e ∈ transcript, e.Arises rec m s

namespace Follows

variable {rec : Recorder σ} {m : Model} {s : Surroundings σ} {transcript : List Entry}
  {r : Running σ}

lemma start (rec : Recorder σ) (m : Model) (s : Surroundings σ) :
    Follows rec m s [] ⟨none, s⟩ where
  report := by rintro report ⟨⟩
  executed := by simp [Running.opened]
  fails := rfl
  waiting := fun _ _ => ⟨rfl, by simp⟩
  arises := by simp

lemma withDraws (h : Follows rec m s transcript r) (draws : Codec.Draws) :
    Follows rec m s transcript (r.withDraws draws) :=
  ⟨h.report, h.executed, h.fails, h.waiting, h.arises⟩

/-- To be ready executes no statement of an operation, and afterwards there has been a
synchronization if there is to be one. -/
lemma ready (h : Follows rec m s transcript r) :
    Follows rec m s transcript (m.ready r) ∧
      (m.ready r).report = if m.synchronize then some (m.synchronizer.run s).1 else none := by
  rw [Model.ready]
  cases hsync : m.synchronize with
  | false =>
    refine ⟨h, ?_⟩
    cases hreport : r.report with
    | none => simp [hreport]
    | some report =>
      have htrue := (h.report report hreport).1
      rw [hsync] at htrue
      cases htrue
  | true =>
    cases hreport : r.report with
    | some report =>
      simp only [if_true, hreport]
      exact ⟨h, by rw [(h.report report hreport).2]⟩
    | none =>
      -- the one synchronization, from the store that nothing has touched yet
      obtain ⟨hstore, hnothing⟩ := h.waiting hsync hreport
      obtain ⟨hrun, hafter⟩ := m.synchronizer.run_congr hstore
      have hfails := (rec.exists_trace m.synchronizer s).2
      have hstatements : transcript.flatMap Entry.statements = [] :=
        List.flatMap_eq_nil_iff.mpr fun e he => (hnothing e he).2
      simp only [if_true]
      refine ⟨⟨?_, ?_, ?_, ?_, h.arises⟩, by rw [hrun]⟩
      · rintro report ⟨⟩
        exact ⟨hsync, hrun⟩
      · rw [hstatements, List.append_nil, Running.opened, hafter]
      · rw [hafter, hfails]
      · rintro - ⟨⟩

/-- A request that executes nothing of its own adds an entry. -/
lemma snoc (h : Follows rec m s transcript r) {request : Request} {response : Response}
    (harises : Entry.Arises rec m s ⟨request, [], response⟩)
    (hready : request = .ready → r.report ≠ none ∨ m.synchronize = false) :
    Follows rec m s (transcript ++ [⟨request, [], response⟩]) r where
  report := h.report
  executed := by simpa using h.executed
  fails := h.fails
  waiting := by
    intro hsync hreport
    obtain ⟨hstore, hnothing⟩ := h.waiting hsync hreport
    refine ⟨hstore, List.forall_mem_append.mpr ⟨hnothing, ?_⟩⟩
    simp only [List.mem_singleton, forall_eq, and_true]
    intro hrequest
    rcases hready hrequest with hsome | hoff
    · exact hsome hreport
    · rw [hsync] at hoff
      cases hoff
  arises := List.forall_mem_append.mpr ⟨h.arises, by simpa using harises⟩

/-- An operation that executes a statement is synchronized first, and adds an entry. -/
lemma executes (h : Follows rec m s transcript r) {operation : Operation} {draws : Codec.Draws}
    {statement : Statement} {conclude : Answer → Except Fault Value}
    (hintent : m.intent draws operation = .executes statement conclude) :
    Follows rec m s
      (transcript ++
        [⟨.operation operation, [statement], .result ((m.execute statement r).1.bind conclude)⟩])
      (m.execute statement r).2 := by
  obtain ⟨hready, hreport⟩ := h.ready
  have hanswer := rec.isOk_execute statement (m.ready r).surroundings.store
  have hexecuted := rec.executed_execute statement (m.ready r).surroundings.store
  have hfails := rec.fails_execute statement (m.ready r).surroundings.store
  rw [hready.fails] at hanswer hfails
  rw [hready.executed] at hexecuted
  have harises : Entry.Arises rec m s
      ⟨.operation operation, [statement], .result ((m.execute statement r).1.bind conclude)⟩ := by
    rw [Model.execute, Surroundings.execute]
    cases hstore : (Store.execute statement (m.ready r).surroundings.store).1 with
    | error fault =>
      rw [hstore] at hanswer
      exact .rejected hintent (by simpa [Except.isOk, Except.toBool] using hanswer) hstore
    | ok answer =>
      rw [hstore] at hanswer
      exact .answered hintent (by simpa [Except.isOk, Except.toBool] using hanswer) hstore
  refine ⟨hready.report, ?_, hfails, ?_, ?_⟩
  · rw [List.flatMap_append, ← List.append_assoc]
    exact hexecuted
  · intro hsync hnone
    have hsome : (m.ready r).report = some (m.synchronizer.run s).1 := by
      rw [hreport, if_pos hsync]
    rw [Model.execute, hsome] at hnone
    cases hnone
  · exact List.forall_mem_append.mpr ⟨hready.arises, by simpa using harises⟩

/-- Each request adds one entry to the transcript. -/
lemma serve (h : Follows rec m s transcript r) (request : Request) :
    ∃ statements, Follows rec m s
      (transcript ++ [⟨request, statements, (m.serve request r).1⟩]) (m.serve request r).2 := by
  cases request with
  | ready =>
    obtain ⟨hready, hreport⟩ := h.ready
    have hresponse := congrArg Response.report hreport
    refine ⟨[], hready.snoc ?_ fun _ => ?_⟩
    · rw [Model.serve, hresponse]
      exact .ready
    · rw [hreport]
      cases m.synchronize <;> simp
  | operation operation =>
    have hdrawn := h.withDraws (m.drawsAfter r.surroundings.draws operation)
    rw [Model.serve, Model.await_eq]
    cases hintent : m.intent r.surroundings.draws operation with
    | ends result =>
      cases result with
      | error fault => exact ⟨[], hdrawn.snoc (.refused hintent) nofun⟩
      | ok v =>
        obtain ⟨conditions, changes, single, rfl, hassigned, rfl⟩ :=
          Model.exists_update_of_intent hintent
        exact ⟨[], hdrawn.snoc (.unassigned hassigned) nofun⟩
    | waits fault => exact ⟨[], hdrawn.ready.1.snoc (.unstated hintent) nofun⟩
    | executes statement conclude => exact ⟨[statement], hdrawn.executes hintent⟩

/-- Requests add one entry each, in their order. -/
lemma serveAll (h : Follows rec m s transcript r) (requests : List Request) :
    ∃ entries, entries.map Entry.request = requests ∧
      entries.map Entry.response = (m.serveAll requests r).1 ∧
      Follows rec m s (transcript ++ entries) (m.serveAll requests r).2 := by
  induction requests generalizing transcript r with
  | nil => exact ⟨[], rfl, rfl, by rw [List.append_nil]; exact h⟩
  | cons request requests ih =>
    obtain ⟨statements, hnext⟩ := h.serve request
    obtain ⟨entries, hrequests, hresponses, hall⟩ := ih hnext
    refine ⟨⟨request, statements, (m.serve request r).1⟩ :: entries, ?_, ?_, ?_⟩
    · rw [List.map_cons, hrequests]
    · rw [List.map_cons, hresponses]
      rfl
    · rwa [List.append_assoc] at hall

end Follows

/-! ## The record after some requests -/

namespace Model

/-- A model of users. -/
def ofUsers : Model :=
  { number := 0
    name := "User"
    schema := ⟨"User", .named userFields⟩
    dialect := ⟨.sqlite, 255⟩
    table := "users"
    synchronize := true }

/-- An update that assigns nothing does not even start the synchronization. This fails in part, and
the operations go on. -/
example :
    (ofUsers.serveAll
        [.operation (.update .null (.map []) false),
          .operation (.delete (.map [(.text "name", .text "Ann")]) false), .ready,
          .operation (.findById (.int 1))]
        ⟨none, .start Synchronizer.partialStore⟩).2.surroundings.store.executed =
      [.plain "ALTER TABLE `users` ADD COLUMN `name` VARCHAR(255)",
        .plain "ALTER TABLE `users` ADD COLUMN `active` BOOLEAN",
        ⟨"DELETE FROM `users` WHERE `name` = ?", [.text "Ann"]⟩,
        ⟨"SELECT * FROM `users` WHERE `id` = ?", [.int 1]⟩] := by
  rfl

end Model
end DocTable
