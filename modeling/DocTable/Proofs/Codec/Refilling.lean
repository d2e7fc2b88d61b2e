/-
# Filling in a second time

A default is put into a document as it is. A default that is itself a mapping is not filled in when
it is put there, although sub-fields may be declared for it: that is done when the document is
filled in the next time. So filling in a second time changes nothing exactly if every default that
was put into the document leaves nothing to fill in below it.
-/
import DocTable.Proofs.Codec.Extension

namespace DocTable

open Entries (ProperKeys)

mutual

/-- Whether nothing is left to fill in for a field, given the value that is held for it. -/
def Descriptor.isFilled : Descriptor → Option Value → Bool
  | ⟨_, default, _⟩, none => default.isNone
  | ⟨_, _, none⟩, some _ => true
  | ⟨_, _, some fields⟩, some value =>
    match value with
    | .map entries => Fields.areFilled fields entries
    | _ => true

/-- Whether nothing is left to fill in for some fields. -/
def Fields.areFilled : Fields → Entries → Bool
  | [], _ => true
  | (name, d) :: rest, entries =>
    d.isFilled (Entries.get? name entries) && Fields.areFilled rest entries

end

mutual

/-- The descriptors that supply a default for a field, given the value that is held for it. -/
def Descriptor.suppliers : Descriptor → Option Value → List Descriptor
  | ⟨kind, default, nested⟩, none => if default.isSome then [⟨kind, default, nested⟩] else []
  | ⟨_, _, none⟩, some _ => []
  | ⟨_, _, some fields⟩, some value =>
    match value with
    | .map entries => Fields.suppliers fields entries
    | _ => []

/-- The descriptors that supply a default for some fields, at every depth of the entries. -/
def Fields.suppliers : Fields → Entries → List Descriptor
  | [], _ => []
  | (name, d) :: rest, entries =>
    d.suppliers (Entries.get? name entries) ++ Fields.suppliers rest entries

end

namespace Codec

variable {name : Value} {d : Descriptor} {fields : Fields} {entries after : Entries}

/-! ## What the first filling leaves to fill in -/

lemma eq_of_supplies {default value : Value} (hdefault : d.default = some default)
    (hliteral : default.isCallable = false) (h : Supplies d value) : value = default := by
  obtain ⟨v, draws, hv, hresolve⟩ := h
  obtain rfl := Option.some.inj (hdefault.symm.trans hv)
  have hcopied : copied default = .ok value := by
    cases default <;> first | exact hresolve | cases hliteral
  rw [copied] at hcopied
  split_ifs at hcopied
  exact (Except.ok.inj hcopied).symm

lemma isFilled_leaf {value : Value} (hleaf : d.nested = none ∨ value.isMap = false) :
    d.isFilled (some value) = true := by
  obtain ⟨kind, default, nested⟩ := d
  rcases hleaf with hleaf | hleaf
  · cases hleaf
    rfl
  · cases nested <;> cases value <;> first | rfl | cases hleaf

lemma suppliers_leaf {value : Value} (hleaf : d.nested = none ∨ value.isMap = false) :
    d.suppliers (some value) = [] := by
  obtain ⟨kind, default, nested⟩ := d
  rcases hleaf with hleaf | hleaf
  · cases hleaf
    rfl
  · cases nested <;> cases value <;> first | rfl | cases hleaf

lemma isFilled_map {sub : Fields} (hnested : d.nested = some sub) (inner : Entries) :
    d.isFilled (some (.map inner)) = sub.areFilled inner := by
  obtain ⟨kind, default, nested⟩ := d
  cases hnested
  rfl

lemma suppliers_map {sub : Fields} (hnested : d.nested = some sub) (inner : Entries) :
    d.suppliers (some (.map inner)) = sub.suppliers inner := by
  obtain ⟨kind, default, nested⟩ := d
  cases hnested
  rfl

/-- The suppliers only depend on what is held under the declared names. -/
lemma suppliers_congr {others : Entries}
    (h : ∀ f ∈ fields, Entries.get? f.1 entries = Entries.get? f.1 others) :
    fields.suppliers entries = fields.suppliers others := by
  induction fields with
  | nil => rfl
  | cons f fields ih =>
    obtain ⟨hfirst, hrest⟩ := List.forall_mem_cons.1 h
    rw [Fields.suppliers, Fields.suppliers, hfirst, ih hrest]

lemma suppliers_put (hnames : ProperKeys (Fields.names ((name, d) :: fields)))
    (hkeys : ProperKeys entries.keys) (value : Value) :
    fields.suppliers (Entries.put name value entries) = fields.suppliers entries := by
  obtain ⟨hname, hne, hrest⟩ := Entries.properKeys_cons.1 hnames
  refine suppliers_congr fun f hf => ?_
  have hmem : f.1 ∈ Fields.names fields := List.mem_map_of_mem hf
  exact Entries.get?_put_of_not_same hkeys hname (hrest.canBeKey _ hmem) (hne _ hmem)

lemma Filled.get?_first {middle : Entries} (hrest : Filled fields middle after)
    (hnames : ProperKeys (Fields.names ((name, d) :: fields))) (hkeys : ProperKeys middle.keys) :
    Entries.get? name after = Entries.get? name middle := by
  obtain ⟨hname, hne, hproper⟩ := Entries.properKeys_cons.1 hnames
  have hmem : ∀ f ∈ fields, f.1 ∈ Fields.names fields := fun f hf => List.mem_map_of_mem hf
  refine hrest.get?_eq (fun f hf => hproper.canBeKey _ (hmem f hf)) hkeys hname fun f hf => ?_
  rw [Value.same_symm (hproper.canBeKey _ (hmem f hf)) hname, hne _ (hmem f hf)]

/-- Nothing is left to fill in once the step for the first field and those for the others have been
taken, if nothing is left below what each of them supplied. -/
lemma areFilled_cons_eq {middle : Entries} (hrest : Filled fields middle after)
    (hnames : ProperKeys (Fields.names ((name, d) :: fields))) (hkeys : ProperKeys middle.keys)
    (hfirst : d.isFilled (Entries.get? name middle) =
      (d.suppliers (Entries.get? name entries)).all fun d => d.isFilled d.default)
    (hsame : fields.suppliers middle = fields.suppliers entries)
    (ih : fields.areFilled after = (fields.suppliers middle).all fun d => d.isFilled d.default) :
    Fields.areFilled ((name, d) :: fields) after =
      (Fields.suppliers ((name, d) :: fields) entries).all fun d => d.isFilled d.default := by
  rw [Fields.areFilled, Fields.suppliers, List.all_append, hrest.get?_first hnames hkeys, hfirst,
    ih, hsame]

/-- What the first filling leaves to fill in is what is left below the defaults it supplied. -/
lemma Filled.areFilled_eq (h : Filled fields entries after) (hfields : fields.Proper)
    (hliteral : fields.DefaultsSatisfy fun v => v.isCallable = false)
    (hkeys : ProperKeys entries.keys) (hheld : HoldsProper fields entries) :
    fields.areFilled after = (fields.suppliers entries).all fun d => d.isFilled d.default := by
  induction h with
  | nil => rfl
  | held hget hleaf rest ih =>
    obtain ⟨-, hnames, -, hproper⟩ := hfields.uncons
    refine areFilled_cons_eq rest hnames hkeys ?_ rfl (ih hproper hliteral.tail hkeys hheld.tail)
    rw [hget, isFilled_leaf hleaf, suppliers_leaf hleaf]
    rfl
  | @undefaulted _ d _ _ _ hget hdefault rest ih =>
    obtain ⟨-, hnames, -, hproper⟩ := hfields.uncons
    refine areFilled_cons_eq rest hnames hkeys ?_ rfl (ih hproper hliteral.tail hkeys hheld.tail)
    obtain ⟨kind, default, nested⟩ := d
    cases hdefault
    rw [hget]
    rfl
  | @supplied _ value d _ _ _ hget hvalue rest ih =>
    obtain ⟨hname, hnames, -, hproper⟩ := hfields.uncons
    have hput : ProperKeys (Entries.put _ value _).keys := Entries.properKeys_put hkeys hname
    refine areFilled_cons_eq rest hnames hput ?_ (suppliers_put hnames hkeys _)
      (ih hproper hliteral.tail hput (hheld.put hnames hkeys))
    -- a literal default is what is put, and its descriptor is the one that supplies it
    obtain ⟨kind, default, nested⟩ := d
    obtain ⟨v, _, hdefault, -⟩ := id hvalue
    cases hdefault
    obtain rfl := eq_of_supplies rfl (hliteral.head.own rfl) hvalue
    rw [Entries.get?_put hname, hget]
    simp [Descriptor.suppliers]
  | @entered _ d _ sub _ inner filled _ hget hnested _ rest ihBelow ih =>
    obtain ⟨hname, hnames, hd, hproper⟩ := hfields.uncons
    have hput : ProperKeys (Entries.put _ (.map filled) _).keys :=
      Entries.properKeys_put hkeys hname
    refine areFilled_cons_eq rest hnames hput ?_ (suppliers_put hnames hkeys _)
      (ih hproper hliteral.tail hput (hheld.put hnames hkeys))
    have hinner : (Value.map inner).Proper := hheld _ List.mem_cons_self _ hget
    rw [Entries.get?_put hname, hget, isFilled_map hnested, suppliers_map hnested]
    exact ihBelow (hd.fields hnested) (hliteral.head.fields hnested)
      (Value.proper_map_iff.1 hinner).1 (.of_proper hinner)

/-! ## Filling in when nothing is left -/

mutual

lemma fillField_of_isFilled : ∀ {name : Value} {d : Descriptor} {entries : Entries} {draws : Draws},
    d.isFilled (Entries.get? name entries) = true →
    fillField name d (.map entries) draws = ⟨.map entries, draws, none⟩
  | name, ⟨kind, default, nested⟩, entries, draws, h => by
    rw [fillField, holds_map]
    cases hget : Entries.get? name entries with
    | none =>
      rw [hget] at h
      obtain rfl : default = none := Option.isNone_iff_eq_none.1 h
      rfl
    | some value =>
      simp only [Option.isSome_some, item_map hget]
      cases nested with
      | none => rfl
      | some sub =>
        cases value with
        | map inner =>
          rw [hget] at h
          have hbelow : fillFields sub (.map inner) draws = ⟨.map inner, draws, none⟩ :=
            fillFields_of_areFilled h
          have hput : Entries.put name (.map inner) entries = entries := Entries.put_of_get? hget
          simp [Value.isMap, hbelow, Value.replaced, placeOf?, hput]
        | _ => rfl

lemma fillFields_of_areFilled : ∀ {fields : List (Value × Descriptor)} {entries : Entries}
    {draws : Draws}, Fields.areFilled fields entries = true →
    fillFields fields (.map entries) draws = ⟨.map entries, draws, none⟩
  | [], _, _, _ => rfl
  | (name, d) :: rest, entries, draws, h => by
    rw [Fields.areFilled, Bool.and_eq_true] at h
    rw [fillFields, fillField_of_isFilled h.1]
    exact fillFields_of_areFilled h.2

end

lemma areFilled_of_forall (h : ∀ f ∈ fields, ∀ held, f.2.isFilled held = true) :
    fields.areFilled entries = true := by
  induction fields with
  | nil => rfl
  | cons f fields ih =>
    obtain ⟨hfirst, hrest⟩ := List.forall_mem_cons.1 h
    rw [Fields.areFilled, hfirst, ih hrest]
    rfl

/-- Without defaults nothing is ever left to fill in. -/
lemma isFilled_of_no_defaults (h : d.DefaultsSatisfy fun _ => False) (held : Option Value) :
    d.isFilled held = true := by
  induction h generalizing held with
  | @mk d own _ ih =>
    cases held with
    | none =>
      have hdefault : d.default = none := Option.eq_none_iff_forall_not_mem.2 own
      obtain ⟨kind, default, nested⟩ := d
      cases hdefault
      rfl
    | some value =>
      cases value with
      | map inner =>
        cases hnested : d.nested with
        | none => exact isFilled_leaf (.inl hnested)
        | some sub =>
          rw [isFilled_map hnested]
          exact areFilled_of_forall fun f hf held => ih sub hnested f hf held
      | _ => exact isFilled_leaf (.inr rfl)

lemma areFilled_of_no_defaults (h : fields.DefaultsSatisfy fun _ => False) :
    fields.areFilled entries = true :=
  areFilled_of_forall fun f hf => isFilled_of_no_defaults (h f hf)

/-- Where filling in changes nothing, nothing is left to fill in. -/
lemma Filled.areFilled_of_unchanged (h : Filled fields entries after) (hafter : after = entries)
    (hfields : fields.Proper) (hkeys : ProperKeys entries.keys)
    (hheld : HoldsProper fields entries) : fields.areFilled entries = true := by
  induction h with
  | nil => rfl
  | held hget hleaf _ ih =>
    obtain ⟨-, -, -, hproper⟩ := hfields.uncons
    rw [Fields.areFilled, hget, isFilled_leaf hleaf, ih hafter hproper hkeys hheld.tail]
    rfl
  | @undefaulted _ d _ _ _ hget hdefault _ ih =>
    obtain ⟨-, -, -, hproper⟩ := hfields.uncons
    obtain ⟨kind, default, nested⟩ := d
    cases hdefault
    rw [Fields.areFilled, hget, ih hafter hproper hkeys hheld.tail]
    rfl
  | supplied hget hvalue rest ih =>
    -- what was supplied is found afterwards, but was not found before
    obtain ⟨hname, hnames, -, -⟩ := hfields.uncons
    have hfound := rest.get?_first hnames (Entries.properKeys_put hkeys hname)
    rw [hafter, hget, Entries.get?_put hname] at hfound
    cases hfound
  | @entered _ d _ sub _ inner filled _ hget hnested _ rest ihBelow ih =>
    obtain ⟨hname, hnames, hd, hproper⟩ := hfields.uncons
    have hfound := rest.get?_first hnames (Entries.properKeys_put hkeys hname)
    rw [hafter, hget, Entries.get?_put hname] at hfound
    obtain rfl : inner = filled := Value.map.inj (Option.some.inj hfound)
    have hinner : (Value.map inner).Proper := hheld _ List.mem_cons_self _ hget
    rw [Entries.put_of_get? hget] at ih
    rw [Fields.areFilled, hget, isFilled_map hnested, ih hafter hproper hkeys hheld.tail,
      ihBelow rfl (hd.fields hnested) (Value.proper_map_iff.1 hinner).1 (.of_proper hinner)]
    rfl

/-- A mapping that has been filled with proper values is proper. -/
lemma Filled.proper (h : Filled fields entries after) (hfields : fields.Proper)
    (hdefaults : fields.DefaultsSatisfy fun v => v.isCallable = false ∧ v.Proper)
    (hentries : (Value.map entries).Proper) : (Value.map after).Proper := by
  induction h with
  | nil => exact hentries
  | held _ _ _ ih => exact ih hfields.uncons.2.2.2 hdefaults.tail hentries
  | undefaulted _ _ _ ih => exact ih hfields.uncons.2.2.2 hdefaults.tail hentries
  | supplied _ hvalue _ ih =>
    obtain ⟨hname, -, -, hproper⟩ := hfields.uncons
    obtain ⟨v, _, hdefault, -⟩ := id hvalue
    obtain ⟨hliteral, hv⟩ := hdefaults.head.own hdefault
    obtain rfl := eq_of_supplies hdefault hliteral hvalue
    exact ih hproper hdefaults.tail (hentries.put hname hv)
  | entered hget hnested _ _ ihBelow ih =>
    obtain ⟨hname, -, hd, hproper⟩ := hfields.uncons
    have hinner := hentries.get? hget
    exact ih hproper hdefaults.tail (hentries.put hname
      (ihBelow (hd.fields hnested) (hdefaults.head.fields hnested) hinner))

/-- Filling in a document for the second time changes nothing exactly if nothing is left to fill in
below the defaults that were supplied the first time. -/
theorem fillFields_again_iff (hfields : fields.Proper)
    (hdefaults : fields.DefaultsSatisfy fun v => v.isCallable = false ∧ v.Proper)
    (hentries : (Value.map entries).Proper) {draws drawn : Draws} {left : Value}
    (h : fillFields fields (.map entries) draws = ⟨left, drawn, none⟩) (later : Draws) :
    fillFields fields left later = ⟨left, later, none⟩ ↔
      ∀ d ∈ fields.suppliers entries, d.isFilled d.default = true := by
  have hliteral := hdefaults.imp fun _ hv => hv.1
  obtain ⟨after, hafter, hfilled⟩ := filled_fillFields (by rw [h])
  obtain rfl : left = .map after := by rw [← hafter, h]
  have hproper := hfilled.proper hfields hdefaults hentries
  have hkeys := (Value.proper_map_iff.1 hproper).1
  rw [← List.all_eq_true, ← hfilled.areFilled_eq hfields hliteral
    (Value.proper_map_iff.1 hentries).1 (.of_proper hentries)]
  constructor
  · intro hagain
    obtain ⟨same, hsame, hagainFilled⟩ := filled_fillFields (by rw [hagain])
    obtain rfl : same = after := Value.map.inj (by rw [← hsame, hagain])
    exact hagainFilled.areFilled_of_unchanged rfl hfields hkeys (.of_proper hproper)
  · exact fun hall => fillFields_of_areFilled hall

/-- A definition whose only field has a mapping for its default, and a sub-field with a default. -/
def defaultMapDefinition : Value :=
  .map [(.text "profile", .map [
    (.text "type", .map [(.text "ok", .map [(.text "type", .kind .boolean),
      (.text "default", .bool false)])]),
    (.text "default", .map [])])]

/-- The fields of the definition. -/
def defaultMapFields : Fields :=
  [(.text "profile", ⟨.structured, some (.map []),
    some [(.text "ok", ⟨.boolean, some (.bool false), none⟩)]⟩)]

lemma defaultMapFields_proper : defaultMapFields.Proper := by
  refine ⟨⟨by decide, by decide⟩, ?_⟩
  simp only [defaultMapFields, List.forall_mem_cons]
  refine ⟨.nested ⟨by decide, by decide⟩ ?_, by simp⟩
  simp only [List.forall_mem_cons]
  exact ⟨.plain _ _, by simp⟩

lemma defaultMapFields_defaults :
    defaultMapFields.DefaultsSatisfy fun v => v.isCallable = false ∧ v.Proper := by
  have hempty : (Value.map []).Proper := .map ⟨by decide, by decide⟩ (by simp)
  intro f hf
  obtain rfl := List.mem_singleton.1 hf
  refine .mk ?_ ?_
  · rintro _ ⟨⟩
    exact ⟨rfl, hempty⟩
  · rintro _ ⟨⟩ f hf
    obtain rfl := List.mem_singleton.1 hf
    refine .mk ?_ ?_
    · rintro _ ⟨⟩
      exact ⟨rfl, .leaf rfl⟩
    · rintro _ ⟨⟩

/-- Where the mapping is held, its sub-fields are filled in at once. -/
theorem fillFields_again_heldMap :
    fillFields defaultMapFields (.map [(.text "profile", .map [])]) noDraws =
      ⟨.map [(.text "profile", .map [(.text "ok", .bool false)])], noDraws, none⟩ ∧
    fillFields defaultMapFields (.map [(.text "profile", .map [(.text "ok", .bool false)])])
        noDraws =
      ⟨.map [(.text "profile", .map [(.text "ok", .bool false)])], noDraws, none⟩ := by
  have hheld : (Value.map [(.text "profile", .map [])]).Proper := by
    refine .map ⟨by decide, by decide⟩ fun e he => ?_
    obtain rfl := List.mem_singleton.1 he
    exact .map ⟨by decide, by decide⟩ (by simp)
  have hfirst : fillFields defaultMapFields (.map [(.text "profile", .map [])]) noDraws =
      ⟨.map [(.text "profile", .map [(.text "ok", .bool false)])], noDraws, none⟩ := rfl
  exact ⟨hfirst, (fillFields_again_iff defaultMapFields_proper defaultMapFields_defaults hheld
    hfirst noDraws).2 (by decide)⟩

/-- Where the mapping is supplied, its sub-fields are only filled in the second time. -/
theorem fillFields_again_defaultMap :
    Fields.ofDefinition defaultMapDefinition = .ok defaultMapFields ∧
    fillFields defaultMapFields (.map []) noDraws =
      ⟨.map [(.text "profile", .map [])], noDraws, none⟩ ∧
    fillFields defaultMapFields (.map [(.text "profile", .map [])]) noDraws =
      ⟨.map [(.text "profile", .map [(.text "ok", .bool false)])], noDraws, none⟩ :=
  ⟨rfl, rfl, rfl⟩

end Codec
end DocTable
