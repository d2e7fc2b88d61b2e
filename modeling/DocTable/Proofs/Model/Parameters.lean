/-
# Statements with scalar parameters

Whatever the values in a document, in changes, in a filter or in a pipeline are, the parameters of
the statement are told by them one by one and in their order: stored forms, and patterns as they are
compared. Insertions have no other parameters than stored forms, so theirs are always scalars. All
other statements have conditions, and their parameters are scalars exactly if all operands of
pattern comparisons are.
-/
import DocTable.Proofs.Model.Requests
import DocTable.Proofs.Query.Parameters
import DocTable.Proofs.Value.Entries

namespace DocTable
namespace Model

/-- The entries that changes set: those of a mapping under `$set`, or else all of them. -/
def assigned? (changes : Value) : Option Entries :=
  match changes.orElse (.map []) with
  | .map entries =>
    match Entries.get? (.text "$set") entries with
    | some (.map inner) => some inner
    | _ => some entries
  | _ => none

/-- The columns that changes set hold the stored forms of the entries. -/
lemma exists_assigned?_of_assignments {changes : Value} {pairs : List (Value × Value)}
    (h : assignments changes = .ok pairs) :
    ∃ entries, assigned? changes = some entries ∧ Codec.encodeEntries entries = .ok pairs := by
  cases hself : changes.orElse (.map []) with
  | map entries =>
    simp only [assignments, hself] at h
    simp only [assigned?, hself]
    generalize Entries.get? (.text "$set") entries = found at h ⊢
    rcases found with _ | value
    · exact ⟨entries, rfl, h⟩
    · cases value with
      | map inner => exact ⟨inner, rfl, h⟩
      | _ => exact ⟨entries, rfl, h⟩
  | _ =>
    simp only [assignments, hself] at h
    cases h

lemma ofCompiled_eq_executes_iff {statement : Except Fault Statement} {s : Statement}
    {conclude conclude' : Answer → Except Fault Value} :
    Intent.ofCompiled statement conclude = .executes s conclude' ↔
      statement = .ok s ∧ conclude = conclude' := by
  cases statement <;> simp [Intent.ofCompiled]

variable {m : Model} {draws : Codec.Draws} {s : Statement} {conclude : Answer → Except Fault Value}

/-- The parameters of an insertion are those of the entries of the document with its defaults. -/
lemma parameters_create {document : Value}
    (h : m.intent draws (.create document) = .executes s conclude) :
    ∃ entries, (Codec.encodeDocument m.schema.fields document draws).document = .map entries ∧
      AreParametersOf ((entries.map Prod.snd).map .stored) s.params := by
  obtain ⟨hstatement, -⟩ := ofCompiled_eq_executes_iff.1 h
  obtain ⟨pairs, hpairs, hinsert⟩ := bind_eq_ok_iff.1 hstatement
  simp only [Codec.encodeDocument] at hpairs
  split at hpairs
  · cases hpairs
  · obtain ⟨entries, hentries, hstored⟩ := bind_eq_ok_iff.1 hpairs
    refine ⟨entries, Value.eq_map_of_entries hentries, ?_⟩
    rw [params_compileInsert hinsert]
    exact .of_storedAs (storedAs_encodeEntries hstored)

/-- The parameters of an update are those of the entries that the changes set and then those of the
conditions. -/
lemma parameters_update {conditions changes : Value} {single : Bool}
    (h : m.intent draws (.update conditions changes single) = .executes s conclude) :
    ∃ entries, assigned? changes = some entries ∧
      AreParametersOf ((entries.map Prod.snd).map .stored ++ operandsOf (conditionsOf conditions))
        s.params := by
  simp only [intent, prepare, workIntent] at h
  split at h
  · cases h
  · cases h
  · rename_i pairs hsome hassigned
    obtain ⟨entries, hentries, hstored⟩ := exists_assigned?_of_assignments hassigned
    obtain ⟨hstatement, -⟩ := ofCompiled_eq_executes_iff.1 h
    exact ⟨entries, hentries, parameters_compileUpdate hstored hstatement⟩

end Model

/-- The parameters of every statement are the stored forms of the values that it binds, in their
order, but for the operands of pattern comparisons: these become parameters as they are. So an
insertion has scalar parameters, and any other statement exactly if all operands of pattern
comparisons in its conditions are scalars. -/
theorem parameters_compiled (d : Dialect) (table : String) (source : Value)
    (calls : List Query.Call) (m : Model) (draws : Codec.Draws)
    (conditions pipeline document changes : Value) (single : Bool) :
    (∀ clauses, compileFilter d conditions = .ok clauses →
      AreParametersOf (operandsOf (conditionsOf conditions))
        (clauses.flatMap Statement.params)) ∧
    (∀ q s, calls.foldlM Query.apply (Query.fresh d source) = .ok q → q.compile = .ok s →
      AreParametersOf (operandsOf (calls.flatMap Query.Call.conditions)) s.params) ∧
    (∀ s, compilePipeline d table pipeline = .ok s →
      ∃ sequence, Pipeline.stages pipeline = .ok sequence ∧
        AreParametersOf (operandsOf (sequence.flatMap Pipeline.Stage.conditions)) s.params) ∧
    (∀ s, compileDelete d table conditions single = .ok s →
      AreParametersOf (operandsOf (conditionsOf conditions)) s.params) ∧
    (∀ s conclude, m.intent draws (.create document) = .executes s conclude →
      (∃ entries, (Codec.encodeDocument m.schema.fields document draws).document = .map entries ∧
        AreParametersOf ((entries.map Prod.snd).map .stored) s.params) ∧
      ∀ p ∈ s.params, p.isScalar = true) ∧
    (∀ s conclude, m.intent draws (.update conditions changes single) = .executes s conclude →
      ∃ entries, Model.assigned? changes = some entries ∧
        AreParametersOf
          ((entries.map Prod.snd).map .stored ++ operandsOf (conditionsOf conditions))
          s.params) := by
  refine ⟨fun clauses h => parameters_compileConditions h,
    fun q s hq h => Query.parameters_compile hq h,
    fun s h => Pipeline.parameters_compilePipeline h, fun s h => parameters_compileDelete h,
    fun s conclude h => ?_, fun s conclude h => Model.parameters_update h⟩
  obtain ⟨entries, hentries, hparams⟩ := Model.parameters_create h
  exact ⟨⟨entries, hentries, hparams⟩, hparams.isScalar⟩

/-- A list and a date in a document, and a membership among lists in an update. -/
theorem parameters_compiled_ofUsers :
    (∃ s conclude, Model.ofUsers.intent Codec.noDraws
        (.create (.map [(.text "tags", .list [.int 1]), (.text "born", .date ⟨2001, 2, 3⟩)])) =
          .executes s conclude ∧
      s.params = [.text "[1]", .text "2001-02-03 00:00:00"] ∧
      ∀ p ∈ s.params, p.isScalar = true) ∧
    ∃ s conclude, Model.ofUsers.intent Codec.noDraws
        (.update (.map [(.text "tags", Query.entryOf "$in" (.list [.list [.int 1], .null]))])
          (.map [(.text "tags", .list [])]) false) = .executes s conclude ∧
      s.params = [.text "[]", .text "[1]", .null] ∧ ∀ p ∈ s.params, p.isScalar = true := by
  have hall := parameters_compiled .standard "users" .null [] Model.ofUsers Codec.noDraws
    (.map [(.text "tags", Query.entryOf "$in" (.list [.list [.int 1], .null]))]) .null
    (.map [(.text "tags", .list [.int 1]), (.text "born", .date ⟨2001, 2, 3⟩)])
    (.map [(.text "tags", .list [])]) false
  obtain ⟨-, -, -, -, hcreate, hupdate⟩ := hall
  refine ⟨⟨_, _, rfl, rfl, (hcreate _ _ rfl).2⟩, _, _, rfl, rfl, ?_⟩
  obtain ⟨entries, hentries, hparams⟩ := hupdate _ _ rfl
  cases hentries
  have hoperands : operandsOf (conditionsOf
      (.map [(.text "tags", Query.entryOf "$in" (.list [.list [.int 1], .null]))])) =
      [.stored (.list [.int 1]), .stored .null] := rfl
  exact hparams.scalar_iff.2 (by simp [hoperands])

/-- A pattern comparison with a list. -/
theorem parameters_compiled_matching :
    compileDelete .standard "t" (.map [(.text "a", Query.entryOf "$regex" (.list [.text "x"]))])
        false =
      .ok ⟨"DELETE FROM `t` WHERE `a` REGEXP ?", [.list [.text "x"]]⟩ ∧
    (Value.list [.text "x"]).isScalar = false :=
  ⟨rfl, rfl⟩

end DocTable
