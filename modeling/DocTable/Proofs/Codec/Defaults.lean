/-
# Filling in a mapping

A mapping stays a mapping while its defaults are filled in, and its keys stay proper. Unless a
default fails, each field is filled in by one of four steps: it is held already, it is not held and
has no default, its default is supplied, or its sub-fields are filled in below it. Producers are
drawn from where their default is supplied. What is found under a name that is not declared stays
the same.
-/
import DocTable.Codec.Defaults
import DocTable.Proofs.Value.Entries

namespace DocTable
namespace Codec

open Entries (ProperKeys)

/-- A mapping with proper keys. -/
def IsProperMap (document : Value) : Prop :=
  ∃ entries : Entries, document = .map entries ∧ ProperKeys entries.keys

lemma isProperMap_put {entries : Entries} (hkeys : ProperKeys entries.keys) {name : Value}
    (hname : name.canBeKey = true) (value : Value) :
    IsProperMap (.map (Entries.put name value entries)) :=
  ⟨_, rfl, Entries.properKeys_put hkeys hname⟩

lemma isProperMap_fillGap {entries : Entries} (hkeys : ProperKeys entries.keys) {name : Value}
    (hname : name.canBeKey = true) (default : Option Value) (draws : Draws) :
    IsProperMap (fillGap name default (.map entries) draws).document := by
  cases default with
  | none => exact ⟨entries, rfl, hkeys⟩
  | some v =>
    rw [fillGap]
    rcases resolveDefault draws v with ⟨fault | value, draws⟩
    · exact ⟨entries, rfl, hkeys⟩
    · exact isProperMap_put hkeys hname value

lemma isProperMap_fillField {entries : Entries} (hkeys : ProperKeys entries.keys) {name : Value}
    (hname : name.canBeKey = true) (d : Descriptor) (draws : Draws) :
    IsProperMap (fillField name d (.map entries) draws).document := by
  obtain ⟨kind, default, nested⟩ := d
  have hsame : IsProperMap (.map entries) := ⟨entries, rfl, hkeys⟩
  rw [fillField]
  split
  · exact hsame
  · exact isProperMap_fillGap hkeys hname default draws
  · split
    · exact hsame
    · split
      · exact hsame
      · split
        · -- the value is put back under its name with the sub-fields filled in
          exact isProperMap_put hkeys hname _
        · exact hsame

/-- A mapping that is being filled stays a mapping with proper keys. -/
lemma isProperMap_fillFields {fields : Fields} (hnames : ∀ f ∈ fields, f.1.canBeKey = true)
    {document : Value} (hdoc : IsProperMap document) (draws : Draws) :
    IsProperMap (fillFields fields document draws).document := by
  induction fields generalizing document draws with
  | nil => exact hdoc
  | cons f fields ih =>
    obtain ⟨entries, rfl, hkeys⟩ := hdoc
    have hfirst := isProperMap_fillField hkeys (hnames f List.mem_cons_self) f.2 draws
    rw [fillFields]
    split
    · -- a default that fails leaves the document as it has been filled so far
      exact hfirst
    · exact ih (fun g hg => hnames g (List.mem_cons_of_mem _ hg)) hfirst _

/-! ## The steps -/

/-- A value that the default of a descriptor can give: a copy of a literal, or what calling the
default gives after some draws. -/
def Supplies (d : Descriptor) (value : Value) : Prop :=
  ∃ default draws, d.default = some default ∧ (resolveDefault draws default).1 = .ok value

/-- What filling in fields one after the other can make of the entries of a mapping. -/
inductive Filled : Fields → Entries → Entries → Prop
  | nil {entries : Entries} : Filled [] entries entries
  /-- The field is held, and there are no sub-fields to fill in. -/
  | held {name value : Value} {d : Descriptor} {fields : Fields} {entries after : Entries}
      (hget : Entries.get? name entries = some value)
      (hleaf : d.nested = none ∨ value.isMap = false) (rest : Filled fields entries after) :
      Filled ((name, d) :: fields) entries after
  /-- The field is not held and has no default. -/
  | undefaulted {name : Value} {d : Descriptor} {fields : Fields} {entries after : Entries}
      (hget : Entries.get? name entries = none) (hdefault : d.default = none)
      (rest : Filled fields entries after) : Filled ((name, d) :: fields) entries after
  /-- The field is not held, and its default is supplied. -/
  | supplied {name value : Value} {d : Descriptor} {fields : Fields} {entries after : Entries}
      (hget : Entries.get? name entries = none) (hvalue : Supplies d value)
      (rest : Filled fields (Entries.put name value entries) after) :
      Filled ((name, d) :: fields) entries after
  /-- The field holds a mapping whose sub-fields are filled in. -/
  | entered {name : Value} {d : Descriptor} {fields sub : Fields}
      {entries inner filled after : Entries} (hget : Entries.get? name entries = some (.map inner))
      (hnested : d.nested = some sub) (below : Filled sub inner filled)
      (rest : Filled fields (Entries.put name (.map filled) entries) after) :
      Filled ((name, d) :: fields) entries after

/-- What filling in fields one after the other makes of the entries of a mapping and of the draws
from producers. -/
inductive Fills : Fields → Entries → Draws → Entries → Draws → Prop
  | nil {entries : Entries} {draws : Draws} : Fills [] entries draws entries draws
  | held {name value : Value} {d : Descriptor} {fields : Fields} {entries after : Entries}
      {draws drawn : Draws} (hget : Entries.get? name entries = some value)
      (hleaf : d.nested = none ∨ value.isMap = false)
      (rest : Fills fields entries draws after drawn) :
      Fills ((name, d) :: fields) entries draws after drawn
  | undefaulted {name : Value} {d : Descriptor} {fields : Fields} {entries after : Entries}
      {draws drawn : Draws} (hget : Entries.get? name entries = none) (hdefault : d.default = none)
      (rest : Fills fields entries draws after drawn) :
      Fills ((name, d) :: fields) entries draws after drawn
  | supplied {name default value : Value} {d : Descriptor} {fields : Fields}
      {entries after : Entries} {draws drawn : Draws} (hget : Entries.get? name entries = none)
      (hdefault : d.default = some default)
      (hvalue : (resolveDefault draws default).1 = .ok value)
      (rest : Fills fields (Entries.put name value entries) (resolveDefault draws default).2
        after drawn) :
      Fills ((name, d) :: fields) entries draws after drawn
  | entered {name : Value} {d : Descriptor} {fields sub : Fields}
      {entries inner filled after : Entries} {draws between drawn : Draws}
      (hget : Entries.get? name entries = some (.map inner)) (hnested : d.nested = some sub)
      (below : Fills sub inner draws filled between)
      (rest : Fills fields (Entries.put name (.map filled) entries) between after drawn) :
      Fills ((name, d) :: fields) entries draws after drawn

/-- The draws are all that the steps leave out. -/
lemma Fills.filled {fields : Fields} {entries after : Entries} {draws drawn : Draws}
    (h : Fills fields entries draws after drawn) : Filled fields entries after := by
  induction h with
  | nil => exact .nil
  | held hget hleaf _ ih => exact .held hget hleaf ih
  | undefaulted hget hdefault _ ih => exact .undefaulted hget hdefault ih
  | supplied hget hdefault hvalue _ ih => exact .supplied hget ⟨_, _, hdefault, hvalue⟩ ih
  | entered hget hnested _ _ ihBelow ih => exact .entered hget hnested ihBelow ih

/-- Fields are filled in one part after the other. -/
lemma fills_append_iff {fields others : Fields} {entries after : Entries} {draws drawn : Draws} :
    Fills (fields ++ others) entries draws after drawn ↔
      ∃ middle between, Fills fields entries draws middle between ∧
        Fills others middle between after drawn := by
  constructor
  · intro h
    induction fields generalizing entries draws with
    | nil => exact ⟨entries, draws, .nil, h⟩
    | cons f fields ih =>
      cases h with
      | held hget hleaf rest =>
        obtain ⟨middle, between, hfirst, hothers⟩ := ih rest
        exact ⟨middle, between, .held hget hleaf hfirst, hothers⟩
      | undefaulted hget hdefault rest =>
        obtain ⟨middle, between, hfirst, hothers⟩ := ih rest
        exact ⟨middle, between, .undefaulted hget hdefault hfirst, hothers⟩
      | supplied hget hdefault hvalue rest =>
        obtain ⟨middle, between, hfirst, hothers⟩ := ih rest
        exact ⟨middle, between, .supplied hget hdefault hvalue hfirst, hothers⟩
      | entered hget hnested below rest =>
        obtain ⟨middle, between, hfirst, hothers⟩ := ih rest
        exact ⟨middle, between, .entered hget hnested below hfirst, hothers⟩
  · rintro ⟨middle, between, hfirst, hothers⟩
    induction hfirst with
    | nil => exact hothers
    | held hget hleaf _ ih => exact .held hget hleaf (ih hothers)
    | undefaulted hget hdefault _ ih => exact .undefaulted hget hdefault (ih hothers)
    | supplied hget hdefault hvalue _ ih => exact .supplied hget hdefault hvalue (ih hothers)
    | entered hget hnested below _ _ ih => exact .entered hget hnested below (ih hothers)

lemma fills_fillGap {name : Value} {d : Descriptor} {entries : Entries} {draws : Draws}
    (hget : Entries.get? name entries = none)
    (h : (fillGap name d.default (.map entries) draws).fault = none) :
    ∃ middle, (fillGap name d.default (.map entries) draws).document = .map middle ∧
      Fills [(name, d)] entries draws middle
        (fillGap name d.default (.map entries) draws).draws := by
  cases hdefault : d.default with
  | none => exact ⟨entries, rfl, .undefaulted hget hdefault .nil⟩
  | some default =>
    rw [hdefault, fillGap] at h
    rw [fillGap]
    rcases hresolve : resolveDefault draws default with ⟨fault | value, draws'⟩
    · rw [hresolve] at h
      cases h
    · have hvalue : (resolveDefault draws default).1 = .ok value := by rw [hresolve]
      have hdraws : (resolveDefault draws default).2 = draws' := by rw [hresolve]
      exact ⟨_, rfl, .supplied hget hdefault hvalue (hdraws ▸ .nil)⟩

lemma holds_map (name : Value) (entries : Entries) :
    (Value.map entries).holds name = .ok (Entries.get? name entries).isSome := rfl

lemma item_map {name value : Value} {entries : Entries}
    (h : Entries.get? name entries = some value) : (Value.map entries).item name = .ok value := by
  rw [Value.item, h]

mutual

/-- Filling in one field of a mapping, unless it fails, is one of the four steps. -/
lemma fills_fillField : ∀ {name : Value} {d : Descriptor} {entries : Entries} {draws : Draws},
    (fillField name d (.map entries) draws).fault = none →
    ∃ middle, (fillField name d (.map entries) draws).document = .map middle ∧
      Fills [(name, d)] entries draws middle (fillField name d (.map entries) draws).draws
  | name, ⟨kind, default, nested⟩, entries, draws, h => by
    rw [fillField, holds_map] at h ⊢
    cases hget : Entries.get? name entries with
    | none =>
      rw [hget] at h
      exact fills_fillGap (d := ⟨kind, default, nested⟩) hget h
    | some value =>
      rw [hget] at h
      simp only [Option.isSome_some, item_map hget] at h ⊢
      cases nested with
      | none => exact ⟨entries, rfl, .held hget (.inl rfl) .nil⟩
      | some sub =>
        cases value with
        | map inner =>
          obtain ⟨filled, hdocument, hbelow⟩ := fills_fillFields h
          refine ⟨Entries.put name (.map filled) entries, ?_, .entered hget rfl hbelow .nil⟩
          exact congrArg (fun v => Value.map (Entries.put name v entries)) hdocument
        | _ => exact ⟨entries, rfl, .held hget (.inr rfl) .nil⟩

/-- Filling in the fields of a mapping, unless it fails, is a step for each of them. -/
lemma fills_fillFields : ∀ {fields : List (Value × Descriptor)} {entries : Entries}
    {draws : Draws}, (fillFields fields (.map entries) draws).fault = none →
    ∃ after, (fillFields fields (.map entries) draws).document = .map after ∧
      Fills fields entries draws after (fillFields fields (.map entries) draws).draws
  | [], entries, _, _ => ⟨entries, rfl, .nil⟩
  | (name, d) :: rest, entries, draws, h => by
    rw [fillFields] at h ⊢
    cases hfault : (fillField name d (.map entries) draws).fault with
    | some fault => simp [hfault] at h
    | none =>
      obtain ⟨middle, hmiddle, hfirst⟩ := fills_fillField hfault
      simp only [hfault, hmiddle] at h ⊢
      obtain ⟨after, hafter, hrest⟩ := fills_fillFields h
      have hboth : Fills ([(name, d)] ++ rest) entries draws after _ :=
        fills_append_iff.2 ⟨middle, _, hfirst, hrest⟩
      exact ⟨after, hafter, hboth⟩

end

lemma filled_fillFields {fields : Fields} {entries : Entries} {draws : Draws}
    (h : (fillFields fields (.map entries) draws).fault = none) :
    ∃ after, (fillFields fields (.map entries) draws).document = .map after ∧
      Filled fields entries after := by
  obtain ⟨after, hafter, hfills⟩ := fills_fillFields h
  exact ⟨after, hafter, hfills.filled⟩

/-! ## What the steps leave as it is -/

section Frame

variable {fields : Fields} {entries after : Entries}

lemma Filled.properKeys (h : Filled fields entries after)
    (hnames : ∀ f ∈ fields, f.1.canBeKey = true) (hkeys : ProperKeys entries.keys) :
    ProperKeys after.keys := by
  induction h with
  | nil => exact hkeys
  | held _ _ _ ih => exact ih (List.forall_mem_cons.1 hnames).2 hkeys
  | undefaulted _ _ _ ih => exact ih (List.forall_mem_cons.1 hnames).2 hkeys
  | supplied _ _ _ ih =>
    obtain ⟨hname, hrest⟩ := List.forall_mem_cons.1 hnames
    exact ih hrest (Entries.properKeys_put hkeys hname)
  | entered _ _ _ _ _ ih =>
    obtain ⟨hname, hrest⟩ := List.forall_mem_cons.1 hnames
    exact ih hrest (Entries.properKeys_put hkeys hname)

/-- What is found under a name that is not among the declared ones stays. -/
lemma Filled.get?_eq (h : Filled fields entries after)
    (hnames : ∀ f ∈ fields, f.1.canBeKey = true) (hkeys : ProperKeys entries.keys) {key : Value}
    (hkey : key.canBeKey = true) (hne : ∀ f ∈ fields, f.1.same key = false) :
    Entries.get? key after = Entries.get? key entries := by
  induction h with
  | nil => rfl
  | held _ _ _ ih =>
    exact ih (List.forall_mem_cons.1 hnames).2 hkeys (List.forall_mem_cons.1 hne).2
  | undefaulted _ _ _ ih =>
    exact ih (List.forall_mem_cons.1 hnames).2 hkeys (List.forall_mem_cons.1 hne).2
  | supplied _ _ _ ih =>
    obtain ⟨hname, hrest⟩ := List.forall_mem_cons.1 hnames
    obtain ⟨hfirst, hne⟩ := List.forall_mem_cons.1 hne
    rw [ih hrest (Entries.properKeys_put hkeys hname) hne,
      Entries.get?_put_of_not_same hkeys hname hkey hfirst]
  | entered _ _ _ _ _ ih =>
    obtain ⟨hname, hrest⟩ := List.forall_mem_cons.1 hnames
    obtain ⟨hfirst, hne⟩ := List.forall_mem_cons.1 hne
    rw [ih hrest (Entries.properKeys_put hkeys hname) hne,
      Entries.get?_put_of_not_same hkeys hname hkey hfirst]

end Frame

end Codec
end DocTable
