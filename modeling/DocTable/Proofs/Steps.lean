/-
# Steps that may fail

How a chain of steps that may fail is taken apart: it succeeds exactly when each of its steps does.
-/
import Mathlib.Data.List.Forall2
import Mathlib.Tactic.Common

namespace DocTable

variable {ε α β : Type}

@[simp] lemma ok_bind (a : α) (f : α → Except ε β) : (Except.ok a >>= f) = f a := rfl

@[simp] lemma error_bind (e : ε) (f : α → Except ε β) :
    (Except.error e >>= f) = Except.error e := rfl

@[simp] lemma pure_eq_ok (a : α) : (pure a : Except ε α) = Except.ok a := rfl

@[simp] lemma throw_eq_error (e : ε) : (throw e : Except ε α) = Except.error e := rfl

lemma bind_eq_ok_iff {x : Except ε α} {f : α → Except ε β} {b : β} :
    (x >>= f) = Except.ok b ↔ ∃ a, x = Except.ok a ∧ f a = Except.ok b := by
  cases x with
  | error e => simp
  | ok a => simp

lemma bind_eq_error_iff {x : Except ε α} {f : α → Except ε β} {e : ε} :
    (x >>= f) = Except.error e ↔
      x = Except.error e ∨ ∃ a, x = Except.ok a ∧ f a = Except.error e := by
  cases x with
  | error other => simp
  | ok a => simp

lemma map_eq_ok_iff {x : Except ε α} {f : α → β} {b : β} :
    x.map f = Except.ok b ↔ ∃ a, x = Except.ok a ∧ f a = b := by
  cases x with
  | error e => simp [Except.map]
  | ok a => simp [Except.map]

/-- A chain of steps succeeds. -/
def Succeeds (x : Except ε α) : Prop := ∃ a, x = .ok a

@[simp] lemma succeeds_ok (a : α) : Succeeds (Except.ok a : Except ε α) := ⟨a, rfl⟩

@[simp] lemma not_succeeds_error (e : ε) : ¬Succeeds (Except.error e : Except ε α) := by
  rintro ⟨a, h⟩
  cases h

/-- A chain of steps succeeds if its first step does, and what follows does on its result. -/
lemma succeeds_bind_iff {x : Except ε α} {f : α → Except ε β} {p : Prop}
    (h : ∀ a, x = Except.ok a → (Succeeds (f a) ↔ p)) :
    Succeeds (x >>= f) ↔ Succeeds x ∧ p := by
  cases x with
  | error e => simp
  | ok a => simpa using h a rfl

/-- A last step that cannot fail. -/
lemma succeeds_bind_ok_iff {x : Except ε α} {f : α → β} :
    Succeeds (x >>= fun a => Except.ok (f a)) ↔ Succeeds x := by
  cases x <;> simp

lemma succeeds_mapM_iff {f : α → Except ε β} {xs : List α} :
    Succeeds (xs.mapM f) ↔ ∀ x ∈ xs, Succeeds (f x) := by
  induction xs with
  | nil => simp
  | cons x xs ih =>
    rw [List.mapM_cons, List.forall_mem_cons, ← ih]
    refine succeeds_bind_iff fun y _ => ?_
    exact succeeds_bind_ok_iff

/-- Several steps that succeed give one result each, in their order. -/
lemma mapM_eq_ok_iff {f : α → Except ε β} {xs : List α} {ys : List β} :
    xs.mapM f = .ok ys ↔ List.Forall₂ (fun x y => f x = .ok y) xs ys := by
  induction xs generalizing ys with
  | nil => cases ys <;> simp
  | cons x xs ih =>
    simp only [List.mapM_cons, bind_eq_ok_iff, pure_eq_ok, Except.ok.injEq, ih,
      List.forall₂_cons_left_iff]
    constructor
    · rintro ⟨y, hy, rest, hrest, rfl⟩
      exact ⟨y, rest, hy, hrest, rfl⟩
    · rintro ⟨y, rest, hy, hrest, rfl⟩
      exact ⟨y, hy, rest, hrest, rfl⟩

/-- Each of several results is that of one of the steps. -/
lemma exists_of_mem_mapM {f : α → Except ε β} {xs : List α} {ys : List β}
    (h : xs.mapM f = .ok ys) {y : β} (hy : y ∈ ys) : ∃ x ∈ xs, f x = .ok y := by
  rw [mapM_eq_ok_iff] at h
  induction h with
  | nil => cases hy
  | cons hx _ ih =>
    rcases List.mem_cons.1 hy with rfl | hy
    · exact ⟨_, List.mem_cons_self, hx⟩
    · obtain ⟨x, hmem, heq⟩ := ih hy
      exact ⟨x, List.mem_cons_of_mem _ hmem, heq⟩

/-- Two chains of steps end alike: in the same fault, or in results that are related. -/
inductive EndAlike (R : α → β → Prop) : Except ε α → Except ε β → Prop
  | error (e : ε) : EndAlike R (.error e) (.error e)
  | ok {a : α} {b : β} (h : R a b) : EndAlike R (.ok a) (.ok b)

end DocTable
