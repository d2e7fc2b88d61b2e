/-
# Fillings that stop

A default may fail, and then the filling stops half way. What it leaves is the mapping with all
defaults of fewer fields: those declared before the field at which it stops, and of the sub-fields
of this one again those before the one at which it stops there. So a filling that stops is a filling
of the beginning of the fields, and what is known of whole fillings is known of it.
-/
import DocTable.Proofs.Codec.Extension

namespace DocTable

open Entries (ProperKeys)

/-- The fields before one of some fields, and of this one at most the beginning of its
sub-fields. -/
inductive Fields.Beginning : Fields → Fields → Prop
  | nil {fields : Fields} : Beginning [] fields
  | cons {f : Value × Descriptor} {part fields : Fields} (h : Beginning part fields) :
      Beginning (f :: part) (f :: fields)
  /-- The last field has no default of its own. -/
  | within {name : Value} {kind : FieldKind} {default : Option Value} {part sub fields : Fields}
      (h : Beginning part sub) :
      Beginning [(name, ⟨kind, none, some part⟩)] ((name, ⟨kind, default, some sub⟩) :: fields)

namespace Fields.Beginning

variable {part fields : Fields}

lemma refl (fields : Fields) : Beginning fields fields := by
  induction fields with
  | nil => exact .nil
  | cons f fields ih => exact .cons ih

lemma names_sublist (h : Beginning part fields) : (names part).Sublist (names fields) := by
  induction h with
  | nil => exact List.nil_sublist _
  | cons _ ih => exact ih.cons_cons _
  | within _ _ => exact (List.nil_sublist _).cons_cons _

lemma proper (h : Beginning part fields) (hfields : fields.Proper) : part.Proper := by
  refine ⟨hfields.names.sublist h.names_sublist, ?_⟩
  induction h with
  | nil => simp
  | cons _ ih =>
    obtain ⟨-, -, hfirst, hrest⟩ := hfields.uncons
    exact List.forall_mem_cons.2 ⟨hfirst, ih hrest⟩
  | within h ih =>
    obtain ⟨-, -, hfirst, -⟩ := hfields.uncons
    have hsub := hfirst.fields rfl
    exact List.forall_mem_cons.2
      ⟨.nested (hsub.names.sublist h.names_sublist) (ih hsub), by simp⟩

end Fields.Beginning

namespace Codec

/-- The step for the first field joins with those for the others. -/
lemma Filled.cons {f : Value × Descriptor} {fields : Fields} {entries middle after : Entries}
    (hfirst : Filled [f] entries middle) (hrest : Filled fields middle after) :
    Filled (f :: fields) entries after := by
  cases hfirst with
  | held hget hleaf hnil =>
    cases hnil
    exact .held hget hleaf hrest
  | undefaulted hget hdefault hnil =>
    cases hnil
    exact .undefaulted hget hdefault hrest
  | supplied hget hvalue hnil =>
    cases hnil
    exact .supplied hget hvalue hrest
  | entered hget hnested hbelow hnil =>
    cases hnil
    exact .entered hget hnested hbelow hrest

/-- A gap that is not filled stays as it is. -/
lemma document_fillGap_of_fault {name : Value} {default : Option Value} {entries : Entries}
    {draws : Draws} {fault : Fault}
    (h : (fillGap name default (.map entries) draws).fault = some fault) :
    (fillGap name default (.map entries) draws).document = .map entries := by
  cases default with
  | none => cases h
  | some v =>
    rw [fillGap] at h ⊢
    rcases hresolve : resolveDefault draws v with ⟨_ | value, draws'⟩
    · rfl
    · rw [hresolve] at h
      cases h

mutual

/-- Where filling in one field stops, the beginning of this field has been filled in. -/
lemma filled_of_stopped : ∀ {name : Value} {d : Descriptor} {entries : Entries} {draws : Draws}
    {fault : Fault}, (fillField name d (.map entries) draws).fault = some fault →
    ∀ fields, ∃ part after, Fields.Beginning part ((name, d) :: fields) ∧
      (fillField name d (.map entries) draws).document = .map after ∧ Filled part entries after
  | name, ⟨kind, default, nested⟩, entries, draws, fault, h, fields => by
    have hnothing : Fields.Beginning [] ((name, ⟨kind, default, nested⟩) :: fields) := .nil
    rw [fillField, holds_map] at h ⊢
    cases hget : Entries.get? name entries with
    | none =>
      rw [hget] at h
      exact ⟨[], entries, hnothing, document_fillGap_of_fault h, .nil⟩
    | some value =>
      rw [hget] at h
      simp only [Option.isSome_some, item_map hget] at h ⊢
      cases nested with
      | none => cases h
      | some sub =>
        cases value with
        | map inner =>
          obtain ⟨part, filled, hpart, hdocument, hbelow⟩ := filled_beginning sub inner draws
          refine ⟨_, Entries.put name (.map filled) entries, hpart.within, ?_,
            .entered hget rfl hbelow .nil⟩
          exact congrArg (fun v => Value.map (Entries.put name v entries)) hdocument
        | _ => cases h

/-- Whether or not a filling stops, the beginning of the fields has been filled in. -/
lemma filled_beginning : ∀ (fields : List (Value × Descriptor)) (entries : Entries)
    (draws : Draws), ∃ part after, Fields.Beginning part fields ∧
      (fillFields fields (.map entries) draws).document = .map after ∧ Filled part entries after
  | [], entries, _ => ⟨[], entries, .nil, rfl, .nil⟩
  | (name, d) :: rest, entries, draws => by
    rw [fillFields]
    cases hfault : (fillField name d (.map entries) draws).fault with
    | some fault =>
      obtain ⟨part, after, hpart, hafter, hfilled⟩ := filled_of_stopped hfault rest
      exact ⟨part, after, hpart, by simpa only [hfault] using hafter, hfilled⟩
    | none =>
      obtain ⟨middle, hmiddle, hfirst⟩ := fills_fillField hfault
      obtain ⟨part, after, hpart, hafter, hfilled⟩ :=
        filled_beginning rest middle (fillField name d (.map entries) draws).draws
      exact ⟨(name, d) :: part, after, .cons hpart, by simpa only [hfault, hmiddle] using hafter,
        hfirst.filled.cons hfilled⟩

end

/-- Whether or not a filling stops, a mapping is only extended, by the defaults of the beginning of
the fields, and by those of all fields unless it stops. What is held under a name that is not
declared stays. -/
theorem exists_beginning_fillFields {fields : Fields} (hfields : fields.Proper) {entries : Entries}
    (hentries : (Value.map entries).Proper) (draws : Draws) :
    ∃ part after, Fields.Beginning part fields ∧
      (fillFields fields (.map entries) draws).document = .map after ∧
      Extends (some part) (.map entries) (.map after) ∧
      ((fillFields fields (.map entries) draws).fault = none → part = fields) ∧
      ∀ key : Value, key.canBeKey = true → fields.get? key = none →
        Entries.get? key after = Entries.get? key entries := by
  have hkeys := (Value.proper_map_iff.1 hentries).1
  have hkeep : ∀ {part after}, Fields.Beginning part fields → Filled part entries after →
      Extends (some part) (.map entries) (.map after) ∧
      ∀ key : Value, key.canBeKey = true → fields.get? key = none →
        Entries.get? key after = Entries.get? key entries := by
    intro part after hpart hfilled
    have hproper := hpart.proper hfields
    refine ⟨hfilled.extends hproper hkeys (.of_proper hentries), fun key hkey hget => ?_⟩
    refine hfilled.get?_eq (fun f hf => hproper.names.canBeKey _ (List.mem_map_of_mem hf)) hkeys
      hkey fun f hf => ?_
    obtain ⟨g, hg, hname⟩ := List.mem_map.1 (hpart.names_sublist.subset (List.mem_map_of_mem hf))
    exact hname ▸ Fields.get?_eq_none_iff.1 hget g hg
  cases hfault : (fillFields fields (.map entries) draws).fault with
  | none =>
    obtain ⟨after, hafter, hfilled⟩ := filled_fillFields hfault
    obtain ⟨hextends, hget⟩ := hkeep (.refl fields) hfilled
    exact ⟨fields, after, .refl fields, hafter, hextends, fun _ => rfl, hget⟩
  | some fault =>
    obtain ⟨part, after, hpart, hafter, hfilled⟩ := filled_beginning fields entries draws
    obtain ⟨hextends, hget⟩ := hkeep hpart hfilled
    exact ⟨part, after, hpart, hafter, hextends, nofun, hget⟩

end Codec
end DocTable
