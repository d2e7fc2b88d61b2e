/-
# Values that differ in the order of members

The members of a mapping can be written in any order, and this at any depth: in the values of other
members and in the items of lists. What is told apart here is nothing but that order. In plain
values, where all keys are texts, a value and its rearrangement hold the same under the same keys,
and they are equal unless they hold numbers that are none.
-/
import DocTable.Proofs.Json.Reading
import DocTable.Proofs.Schema.Comparable
import DocTable.Proofs.Value.Leaves
import Mathlib.Data.List.Nodup
import Mathlib.Data.List.Zip

namespace DocTable

/-- Two lists of named things have the same names in some order, and what stands under the same name
is related. -/
structure Corresponds {α β : Type} (R : α → β → Prop) (xs : List (Value × α))
    (ys : List (Value × β)) : Prop where
  names : (xs.map Prod.fst).Perm (ys.map Prod.fst)
  values : ∀ x ∈ xs, ∀ y ∈ ys, x.1 = y.1 → R x.2 y.2

/-- Two named things have the same name and are related. -/
def Agrees {α β : Type} (R : α → β → Prop) (x : Value × α) (y : Value × β) : Prop :=
  x.1 = y.1 ∧ R x.2 y.2

namespace Corresponds

variable {α β : Type} {R : α → β → Prop} {xs : List (Value × α)} {ys : List (Value × β)}

lemma symm (h : Corresponds R xs ys) : Corresponds (fun y x => R x y) ys xs :=
  ⟨h.names.symm, fun y hy x hx heq => h.values x hx y hy heq.symm⟩

lemma length_eq (h : Corresponds R xs ys) : xs.length = ys.length := by
  have hlength := h.names.length_eq
  rwa [List.length_map, List.length_map] at hlength

/-- What stands under a name on one side stands there on the other. -/
lemma exists_mem (h : Corresponds R xs ys) {x : Value × α} (hx : x ∈ xs) :
    ∃ y ∈ ys, Agrees R x y := by
  have hname := h.names.subset (List.mem_map_of_mem hx)
  obtain ⟨y, hy, heq⟩ := List.mem_map.1 hname
  exact ⟨y, hy, heq.symm, h.values x hx y hy heq.symm⟩

/-- What is made of what stands under the names stands under the same names. -/
lemma map {γ δ : Type} {S : γ → δ → Prop} {f : α → γ} {g : β → δ} (h : Corresponds R xs ys)
    (hS : ∀ x ∈ xs, ∀ y ∈ ys, R x.2 y.2 → S (f x.2) (g y.2)) :
    Corresponds S (xs.map fun x => (x.1, f x.2)) (ys.map fun y => (y.1, g y.2)) := by
  refine ⟨?_, fun x' hx' y' hy' heq => ?_⟩
  · rw [List.map_map, List.map_map]
    exact h.names
  · obtain ⟨x, hx, rfl⟩ := List.mem_map.1 hx'
    obtain ⟨y, hy, rfl⟩ := List.mem_map.1 hy'
    exact hS x hx y hy (h.values x hx y hy heq)

/-- Names can be left out on both sides. -/
lemma filter (h : Corresponds R xs ys) (keep : Value → Bool) :
    Corresponds R (xs.filter fun x => keep x.1) (ys.filter fun y => keep y.1) := by
  refine ⟨?_, fun x hx y hy heq =>
    h.values x (List.mem_of_mem_filter hx) y (List.mem_of_mem_filter hy) heq⟩
  have hnames := h.names.filter keep
  rwa [List.filter_map, List.filter_map] at hnames

end Corresponds

namespace Value

/-- Two values that differ in the order of the members of mappings only. -/
inductive Rearranged : Value → Value → Prop
  /-- What is neither a list nor a mapping stays as it is. -/
  | leaf {v : Value} (hmap : v.isMap = false) (hlist : ∀ items, v ≠ .list items) : Rearranged v v
  /-- Items of lists keep their order. -/
  | list {items others : List Value} (hlength : items.length = others.length)
      (h : ∀ pair ∈ items.zip others, Rearranged pair.1 pair.2) :
      Rearranged (.list items) (.list others)
  /-- A mapping has the same keys in some order. -/
  | map {entries others : Entries}
      (hkeys : (entries.map Prod.fst).Perm (others.map Prod.fst))
      (h : ∀ e ∈ entries, ∀ f ∈ others, e.1 = f.1 → Rearranged e.2 f.2) :
      Rearranged (.map entries) (.map others)

namespace Rearranged

lemma symm {v w : Value} (h : v.Rearranged w) : w.Rearranged v := by
  induction h with
  | leaf hmap hlist => exact .leaf hmap hlist
  | list hlength _ ih =>
    refine .list hlength.symm fun pair hpair => ?_
    rw [← List.zip_swap, List.mem_map] at hpair
    obtain ⟨swapped, hswapped, rfl⟩ := hpair
    exact ih swapped hswapped
  | map hkeys _ ih => exact .map hkeys.symm fun f hf e he heq => ih e he f hf heq.symm

lemma corresponds {entries others : Entries} (h : (Value.map entries).Rearranged (.map others)) :
    Corresponds Rearranged entries others := by
  cases h with
  | leaf hmap => cases hmap
  | map hkeys h => exact ⟨hkeys, h⟩

end Rearranged
end Value

/-! ## Looking up -/

/-- What has a text for its name is found again where the name stands once. -/
lemma find?_same {α : Type} {xs : List (Value × α)} {x : Value × α}
    (htext : ∃ name, x.1 = .text name) (hnodup : (xs.map Prod.fst).Nodup) (hx : x ∈ xs) :
    (xs.find? fun y => x.1.same y.1) = some x := by
  obtain ⟨name, hname⟩ := htext
  cases hfind : xs.find? fun y => x.1.same y.1 with
  | none =>
    have hself := List.find?_eq_none.1 hfind x hx
    rw [hname] at hself
    exact absurd (Value.same_refl rfl) hself
  | some found =>
    have hmem := List.mem_of_find?_eq_some hfind
    have hsame : x.1.same found.1 = true := by simpa using List.find?_some hfind
    have hkey : x.1 = found.1 := by
      rw [hname] at hsame ⊢
      exact Value.same_text_iff.1 hsame
    rw [List.inj_on_of_nodup_map hnodup hmem hx hkey.symm]

namespace Entries

lemma Named.get?_of_mem {entries : Entries} (h : entries.Named) {e : Value × Value}
    (he : e ∈ entries) : get? e.1 entries = some e.2 := by
  have hkey := h.properKeys.canBeKey _ (List.mem_map_of_mem he)
  exact Entries.get?_of_mem h.properKeys hkey he (Value.same_refl hkey)

end Entries

/-! ## Equality -/

namespace Value

/-- Whether a value is a binary number. -/
def isFloat : Value → Bool
  | float _ => true
  | _ => false

/-- Whether no leaf of a value is a binary number. -/
def isFloatFree (v : Value) : Bool := v.allLeaves fun leaf => !leaf.isFloat

lemma matches?_eq_of_same {v w : Value} (h : v.same w = true) : v.matches? w = some true :=
  beq_iff_eq.1 h

/-- What is plain, holds no others and is no binary number is equal to itself. -/
lemma matches?_leaf {v : Value} (hmap : v.isMap = false) (hlist : ∀ items, v ≠ .list items)
    (hplain : Json.Plain v) (hfree : v.isFloatFree = true) : v.matches? v = some true := by
  cases hplain with
  | null | bool _ | int _ | text _ => exact matches?_eq_of_same (same_refl rfl)
  | float x => cases hfree
  | @list items _ => exact absurd rfl (hlist items)
  | map _ _ => cases hmap

lemma matches?_list {items others : List Value} (h : items.length = others.length) :
    (list items).matches? (list others) = equalItems? items others := by
  simp [matches?, isOccurrence, equal?, h]

lemma matches?_map {entries others : Entries} (h : entries.length = others.length) :
    (map entries).matches? (map others) = equalEntries? entries others := by
  simp [matches?, isOccurrence, equal?, h]

lemma equalItems?_of_zip {items others : List Value} (hlength : items.length = others.length)
    (h : ∀ pair ∈ items.zip others, pair.1.matches? pair.2 = some true) :
    equalItems? items others = some true := by
  induction items generalizing others with
  | nil =>
    rw [List.length_eq_zero_iff.1 hlength.symm]
    rfl
  | cons item items ih =>
    obtain ⟨other, others, rfl⟩ := List.exists_cons_of_length_eq_add_one hlength.symm
    rw [List.zip_cons_cons, List.forall_mem_cons] at h
    rw [equalItems?_cons_eq, if_pos h.1]
    exact ih (Nat.succ.inj hlength) h.2

/-- The entry of a name is found again among entries that have the name once. -/
lemma find?_key {entries : Entries} (hnamed : entries.Named) {e : Value × Value}
    (he : e ∈ entries) :
    (entries.find? fun entry => e.1.isOccurrence entry.1 || equal? e.1 entry.1 == some true) =
      some e := by
  have htest : ∀ entry : Value × Value,
      (e.1.isOccurrence entry.1 || equal? e.1 entry.1 == some true) = e.1.same entry.1 := by
    intro entry
    rw [same, matches?]
    cases e.1.isOccurrence entry.1 <;> simp
  simp only [htest]
  exact find?_same (hnamed.texts e he) hnamed.nodup he

lemma equalEntries?_of_corresponds {entries others : Entries} (hothers : others.Named)
    (h : ∀ e ∈ entries, ∃ f ∈ others, e.1 = f.1 ∧ e.2.matches? f.2 = some true) :
    equalEntries? entries others = some true := by
  induction entries with
  | nil => rfl
  | cons e entries ih =>
    obtain ⟨⟨f, hf, hname, hmatches⟩, hrest⟩ := List.forall_mem_cons.1 h
    have hfind := find?_key hothers hf
    rw [← hname] at hfind
    rw [equalEntries?_cons_eq hfind, if_pos hmatches]
    exact ih hrest

namespace Rearranged

lemma isFloatFree {v w : Value} (h : v.Rearranged w) (hfree : v.isFloatFree = true) :
    w.isFloatFree = true := by
  induction h with
  | leaf => exact hfree
  | @list items others hlength _ ih =>
    refine allLeaves_list_iff.2 fun other hother => ?_
    rw [← List.map_snd_zip hlength.ge] at hother
    obtain ⟨pair, hpair, rfl⟩ := List.mem_map.1 hother
    exact ih pair hpair (allLeaves_list_iff.1 hfree _ (List.of_mem_zip hpair).1)
  | @map entries others hkeys h ih =>
    refine allLeaves_map_iff.2 fun f hf => ?_
    have hcorresponds : Corresponds Rearranged entries others := ⟨hkeys, h⟩
    obtain ⟨e, he, hname, -⟩ := hcorresponds.symm.exists_mem hf
    exact ih e he f hf hname.symm (allLeaves_map_iff.1 hfree e he)

/-- Plain values without binary numbers are equal to their rearrangements. -/
lemma matches? {v w : Value} (h : v.Rearranged w) (hv : Json.Plain v) (hw : Json.Plain w)
    (hfree : v.isFloatFree = true) : v.matches? w = some true := by
  induction h with
  | leaf hmap hlist => exact matches?_leaf hmap hlist hv hfree
  | @list items others hlength _ ih =>
    have hitems := allLeaves_list_iff.1 hfree
    cases hv with
    | list hv =>
      cases hw with
      | list hw =>
        rw [matches?_list hlength]
        refine equalItems?_of_zip hlength fun pair hpair => ?_
        obtain ⟨hleft, hright⟩ := List.of_mem_zip hpair
        exact ih pair hpair (hv _ hleft) (hw _ hright) (hitems _ hleft)
  | @map entries others hkeys h ih =>
    have hentries := allLeaves_map_iff.1 hfree
    have hcorresponds : Corresponds Rearranged entries others := ⟨hkeys, h⟩
    cases hv with
    | map _ hv =>
      cases hw with
      | map hothers hw =>
        rw [matches?_map hcorresponds.length_eq]
        refine equalEntries?_of_corresponds hothers fun e he => ?_
        obtain ⟨f, hf, hname, -⟩ := hcorresponds.exists_mem he
        exact ⟨f, hf, hname, ih e he f hf hname (hv e he) (hw f hf) (hentries e he)⟩

end Rearranged
end Value
end DocTable
