/-
# Asking a registry for models

A session answers questions for models one after another, and its registry remembers the model of
every name that has been answered. A question for a new name is answered with a new model if a
schema comes with it and a model can be made from it. A question for a known name is answered with
the model of the first time, whatever schema or table comes with it, except where that schema cannot
be compared with the model's. A question that fails leaves everything as it was.
-/
import DocTable.Proofs.Schema.Comparable
import DocTable.Session
import DocTable.Store.Scripted
import Mathlib.Data.List.Nodup

namespace DocTable

/-- A question for the model of a name. -/
structure Question where
  /-- The name of the entity. -/
  name : String
  /-- The schema for a new model. -/
  source : Option SchemaSource
  /-- The table for a new model. -/
  table : Option String

/-- Questions with their answers, in order. -/
abbrev History := List (Question × Except Fault Model)

namespace History

/-- The name of a question that was answered with a model. -/
def answeredName? (answered : Question × Except Fault Model) : Option String :=
  answered.2.toOption.map fun _ => answered.1.name

/-- The names of the questions that were answered with models. -/
def answeredNames (history : History) : List String := history.filterMap answeredName?

/-- The first model that was the answer to a question for a name. -/
def firstModel? (history : History) (name : String) : Option Model :=
  history.findSome? fun answered =>
    if answered.1.name = name then answered.2.toOption else none

lemma answeredNames_append_ok (history : History) (q : Question) (m : Model) :
    answeredNames (history ++ [(q, .ok m)]) = answeredNames history ++ [q.name] := by
  rw [answeredNames, List.filterMap_append]
  rfl

lemma answeredNames_append_error (history : History) (q : Question) (fault : Fault) :
    answeredNames (history ++ [(q, .error fault)]) = answeredNames history := by
  rw [answeredNames, List.filterMap_append]
  exact List.append_nil _

lemma firstModel?_append_ok (history : History) (q : Question) (m : Model) (name : String) :
    firstModel? (history ++ [(q, .ok m)]) name =
      (firstModel? history name).or (if q.name = name then some m else none) := by
  rw [firstModel?, List.findSome?_append, firstModel?, List.findSome?_singleton]
  rfl

lemma firstModel?_append_error (history : History) (q : Question) (fault : Fault)
    (name : String) :
    firstModel? (history ++ [(q, .error fault)]) name = firstModel? history name := by
  have hnone :
      (if q.name = name then (Except.error fault : Except Fault Model).toOption else none) = none := by
    split_ifs <;> rfl
  rw [firstModel?, List.findSome?_append, firstModel?, List.findSome?_singleton, hnone,
    Option.or_none]

end History

namespace Registry

/-! ## What is remembered -/

/-- What a registry remembers of the questions that were asked of it. -/
structure Remembers (history : History) (r : Registry) : Prop where
  nodup : r.names.Nodup
  names_eq : r.names = history.answeredNames.eraseDups
  get?_eq : ∀ name, r.get? name = history.firstModel? name

lemma get?_eq_none_iff {r : Registry} {name : String} :
    r.get? name = none ↔ name ∉ r.names := by
  rw [get?, List.lookup_eq_none_iff]
  constructor
  · intro h hmem
    obtain ⟨entry, hentry, rfl⟩ := List.mem_map.1 hmem
    exact bne_iff_ne.1 (h entry hentry) rfl
  · exact fun h entry hentry => bne_iff_ne.2 fun heq => h (heq ▸ List.mem_map_of_mem hentry)

/-- The first occurrences in a list that goes on with something old or something new. -/
lemma eraseDups_append_singleton (names : List String) (name : String) :
    (names ++ [name]).eraseDups =
      if name ∈ names then names.eraseDups else names.eraseDups ++ [name] := by
  rw [List.eraseDups_append]
  split_ifs with hmem
  · simp [List.removeAll, hmem]
  · simp [List.removeAll, hmem, List.eraseDups_cons]

lemma Remembers.known {history : History} {r : Registry} (h : Remembers history r) {q : Question}
    {m : Model} (hget : r.get? q.name = some m) : Remembers (history ++ [(q, .ok m)]) r := by
  refine ⟨h.nodup, ?_, fun name => ?_⟩
  · have hmem : q.name ∈ r.names := by
      rw [← not_not (a := q.name ∈ r.names), ← get?_eq_none_iff, hget]
      exact Option.some_ne_none m
    rw [h.names_eq, List.mem_eraseDups] at hmem
    rw [History.answeredNames_append_ok, eraseDups_append_singleton, if_pos hmem, h.names_eq]
  · rw [History.firstModel?_append_ok, ← h.get?_eq]
    split_ifs with hname
    · rw [← hname, hget]
      rfl
    · rw [Option.or_none]

lemma Remembers.created {history : History} {r : Registry} (h : Remembers history r) {q : Question}
    (hget : r.get? q.name = none) (m : Model) :
    Remembers (history ++ [(q, .ok m)]) { r with models := r.models ++ [(q.name, m)] } := by
  -- a name without a model has not been answered, so it is a first occurrence in the history too
  have hnew := get?_eq_none_iff.1 hget
  have hnames : names { r with models := r.models ++ [(q.name, m)] } =
      r.names ++ [q.name] := List.map_append
  refine ⟨?_, ?_, fun name => ?_⟩
  · rw [hnames]
    exact List.Nodup.append h.nodup (List.nodup_singleton _) (List.disjoint_singleton.2 hnew)
  · rw [h.names_eq, List.mem_eraseDups] at hnew
    rw [hnames, History.answeredNames_append_ok, eraseDups_append_singleton, if_neg hnew,
      h.names_eq]
  · have hlast : [(q.name, m)].lookup name = if q.name = name then some m else none := by
      split_ifs with hname
      · rw [← hname]
        exact List.lookup_cons_self
      · simp [List.lookup_cons, beq_false_of_ne (Ne.symm hname)]
    rw [History.firstModel?_append_ok, ← h.get?_eq, get?, List.lookup_append, hlast]
    rfl

lemma Remembers.failed {history : History} {r : Registry} (h : Remembers history r) (q : Question)
    (fault : Fault) : Remembers (history ++ [(q, .error fault)]) r := by
  refine ⟨h.nodup, ?_, fun name => ?_⟩
  · rw [History.answeredNames_append_error, h.names_eq]
  · rw [History.firstModel?_append_error, h.get?_eq]

/-! ## Why a question fails -/

end Registry

namespace Session

variable {σ : Type}

/-- The answer to a question, and the session after it. -/
def answer [Store σ] (s : Session σ) (q : Question) : Except Fault Model × Session σ :=
  s.define q.name q.source q.table

/-- The ways in which a question is answered. -/
inductive Answers (s : Session σ) (q : Question) : Except Fault Model → Session σ → Prop
  /-- The name is known. -/
  | known {m : Model} {after : Session σ} (hget : s.registry.get? q.name = some m)
      (hcompare : Succeeds (Registry.declaresOthers m q.source))
      (hregistry : after.registry = s.registry) (hmodels : after.models = s.models) :
      Answers s q (.ok m) after
  /-- The name is known, and the schema cannot be compared with that of the model. -/
  | incomparable {m : Model} {fault : Fault} (hget : s.registry.get? q.name = some m)
      (hfault : Registry.declaresOthers m q.source = .error fault) : Answers s q (.error fault) s
  /-- The name is new, and the model for it is made. -/
  | created {m : Model} {source : SchemaSource} {after : Session σ}
      (hget : s.registry.get? q.name = none) (hsource : q.source = some source)
      (hmake : Model.make s.models.length s.registry.dialect s.registry.tableSuffix q.name source
        q.table true = .ok m)
      (hregistry : after.registry =
        { s.registry with models := s.registry.models ++ [(q.name, m)] }) :
      Answers s q (.ok m) after
  /-- The name is new, and no model can be made for it. -/
  | unmade {source : SchemaSource} {fault : Fault} (hget : s.registry.get? q.name = none)
      (hsource : q.source = some source)
      (hmake : Model.make s.models.length s.registry.dialect s.registry.tableSuffix q.name source
        q.table true = .error fault) : Answers s q (.error fault) s
  /-- The name is new, and no schema comes with the question. -/
  | unregistered (hget : s.registry.get? q.name = none) (hsource : q.source = none) :
      Answers s q (.error (.failure (.unregistered (.text q.name)))) s

section

variable {s after : Session σ} {q : Question} {answer : Except Fault Model}

end

end Session
end DocTable
