/-
# The normal form of a definition

What a definition says of its field, told apart from how it is brought into canonical form: the
entries that define sub-fields, the default that it carries, and the type that it names. The
grammar is ambiguous on purpose, since `type` and `default` may just as well be names of sub-fields;
each of the three is decided by the entry under `type` if there is one, and otherwise by whether
there is anything else than a `default`.

A descriptor is the normal form of a definition if it has just these three, and the descriptors of
its sub-fields are the normal forms of their definitions in turn, in order and without the identity
field. Every definition has its normal form. Only the reader of files gives up on definitions that
are nested too deeply.
-/
import DocTable.Cli.Run
import DocTable.Proofs.Schema.Fields

namespace DocTable

/-- The entries of a definition that define fields: all but the one of the identity field. -/
def Entries.declarations (entries : Entries) : Entries :=
  entries.filter fun e => !e.1.same (.text identityField)

namespace Descriptor

/-! ## What a definition says -/

/-- The entries that define the sub-fields of a definition. -/
inductive Lists : Value → Entries → Prop
  /-- The `type` is a mapping that has a key other than the name of the identity field. -/
  | type {entries inner : Entries} (htype : Entries.get? (.text "type") entries = some (.map inner))
      (hkey : ∃ key ∈ inner.keys, key ≠ .text identityField) : Lists (.map entries) inner
  /-- There is no `type`, and something else than a `default`. -/
  | own {entries : Entries} (htype : Entries.get? (.text "type") entries = none)
      (hentries : entries ≠ []) (hkeys : entries.keys ≠ [.text "default"]) :
      Lists (.map entries) entries

/-- The default that a definition carries. -/
inductive Carries : Value → Value → Prop
  | besideType {entries : Entries} {marker v : Value}
      (htype : Entries.get? (.text "type") entries = some marker)
      (hdefault : Entries.get? (.text "default") entries = some v) (hv : v ≠ .null) :
      Carries (.map entries) v
  | alone {v : Value} (hv : v ≠ .null) : Carries (.map [(.text "default", v)]) v

/-- The type that a definition names: that of its marker, where it has one. -/
def namedKind : Value → FieldKind
  | .map entries => ((Entries.get? (.text "type") entries).map FieldKind.ofMarker).getD .structured
  | marker => .ofMarker marker

/-- A descriptor is the normal form of a definition. -/
inductive Normalizes : Value → Descriptor → Prop
  /-- No sub-fields are defined. -/
  | plain {definition : Value} {d : Descriptor} (hlists : ∀ inner, ¬Lists definition inner)
      (hnested : d.nested = none) (hkind : d.kind = namedKind definition)
      (hdefault : ∀ v, d.default = some v ↔ Carries definition v) : Normalizes definition d
  /-- The sub-fields are those that are defined, each of them in normal form. -/
  | structured {definition : Value} {d : Descriptor} {inner : Entries} {fields : Fields}
      (hlists : Lists definition inner) (hnested : d.nested = some fields)
      (hkind : d.kind = .structured) (hdefault : ∀ v, d.default = some v ↔ Carries definition v)
      (hnames : fields.names = inner.declarations.keys)
      (hfields : List.Forall₂ Normalizes (inner.declarations.map Prod.snd)
        (fields.map Prod.snd)) : Normalizes definition d

end Descriptor

/-- Fields are the normal form of the entries that define them: they have the names of these in
order, but for the identity field, and the normal forms of their definitions. -/
structure Fields.Normalize (fields : Fields) (entries : Entries) : Prop where
  names : fields.names = entries.declarations.keys
  descriptors : List.Forall₂ Descriptor.Normalizes (entries.declarations.map Prod.snd)
    (fields.map Prod.snd)

/-- The names and the descriptors make up the fields. -/
lemma Fields.eq_of_names {fields others : Fields} (hnames : fields.names = others.names)
    (hdescriptors : fields.map Prod.snd = others.map Prod.snd) : fields = others :=
  (List.zip_of_prod hnames hdescriptors).trans (List.zip_of_prod rfl rfl).symm

namespace Descriptor

/-! ## The three parts of a descriptor -/

lemma same_identityField_iff {key : Value} :
    key.same (.text identityField) = true ↔ key = .text identityField :=
  ⟨Value.eq_text_of_same, by rintro rfl; exact Value.same_refl rfl⟩

lemma declarations_eq_nil_iff {entries : Entries} :
    entries.declarations = [] ↔ ¬∃ key ∈ entries.keys, key ≠ .text identityField := by
  simp [Entries.declarations, Entries.keys, same_identityField_iff]

lemma fieldsOfEntries_eq_nil_iff {entries : Entries} :
    fieldsOfEntries entries = [] ↔ ¬∃ key ∈ entries.keys, key ≠ .text identityField := by
  rw [fieldsOfEntries_eq, List.map_eq_nil_iff]
  exact declarations_eq_nil_iff

lemma present?_eq_some_iff {v w : Value} : v.present? = some w ↔ v = w ∧ w ≠ .null := by
  constructor
  · intro h
    cases v <;> cases h <;> simp
  · rintro ⟨rfl, hv⟩
    cases v with
    | null => exact absurd rfl hv
    | _ => rfl

lemma defaultIn_eq_some_iff {entries : Entries} {v : Value} :
    defaultIn entries = some v ↔
      Entries.get? (.text "default") entries = some v ∧ v ≠ .null := by
  simp [defaultIn, Option.bind_eq_some_iff, present?_eq_some_iff]

/-- Beside a `type`, the default is what stands under `default`. -/
lemma carries_iff_of_type {entries : Entries} {marker v : Value}
    (htype : Entries.get? (.text "type") entries = some marker) :
    Carries (.map entries) v ↔ defaultIn entries = some v := by
  rw [defaultIn_eq_some_iff]
  constructor
  · rintro (⟨-, hdefault, hv⟩ | hv)
    · exact ⟨hdefault, hv⟩
    · cases htype
  · exact fun h => .besideType htype h.1 h.2

/-- Entries that are nothing but a `default`. -/
lemma exists_eq_of_keys {entries : Entries} (h : entries.keys = [.text "default"]) :
    ∃ v, entries = [(.text "default", v)] := by
  obtain ⟨⟨key, v⟩, rfl, hkey⟩ := List.map_eq_singleton_iff.1 h
  exact ⟨v, by rw [← hkey]⟩

lemma keys_eq_default_iff {entries : Entries} :
    (Entries.has (.text "default") entries && entries.length == 1) = true ↔
      entries.keys = [.text "default"] := by
  constructor
  · rw [Bool.and_eq_true, beq_iff_eq]
    rintro ⟨hhas, hlength⟩
    obtain ⟨⟨key, v⟩, rfl⟩ := List.length_eq_one_iff.1 hlength
    rw [Entries.has_eq_any] at hhas
    have hkey : key = .text "default" := Value.eq_text_of_same (by simpa [Entries.keys] using hhas)
    rw [hkey]
    rfl
  · intro h
    obtain ⟨v, rfl⟩ := exists_eq_of_keys h
    rfl

/-- Without a `type`, a default is carried by a definition that is nothing but a `default`. -/
lemma carries_iff_of_no_type {entries : Entries} {v : Value}
    (htype : Entries.get? (.text "type") entries = none) :
    Carries (.map entries) v ↔ entries = [(.text "default", v)] ∧ v ≠ .null := by
  constructor
  · rintro (⟨htype', -, -⟩ | hv)
    · rw [htype] at htype'
      cases htype'
    · exact ⟨rfl, hv⟩
  · rintro ⟨rfl, hv⟩
    exact .alone hv

/-! ## A definition has one normal form at most -/

lemma Lists.unique {definition : Value} {inner other : Entries} (h : Lists definition inner)
    (h' : Lists definition other) : inner = other := by
  rcases h with ⟨htype, -⟩ | ⟨htype, -, -⟩ <;> rcases h' with ⟨htype', -⟩ | ⟨htype', -, -⟩
  · exact Value.map.inj (Option.some.inj (htype.symm.trans htype'))
  · cases htype.symm.trans htype'
  · cases htype.symm.trans htype'
  · rfl

/-- What defines a sub-field is smaller than the whole definition. -/
lemma Lists.sizeOf_lt {definition : Value} {inner : Entries} (h : Lists definition inner)
    {raw : Value} (hraw : raw ∈ inner.declarations.map Prod.snd) :
    sizeOf raw < sizeOf definition := by
  have hmem : ∀ {entries : Entries} {e : Value × Value}, e ∈ entries →
      sizeOf e.2 < sizeOf (Value.map entries) := by
    intro entries e he
    have hlt := List.sizeOf_lt_of_mem he
    rcases e with ⟨key, v⟩
    simp only [Prod.mk.sizeOf_spec, Value.map.sizeOf_spec] at hlt ⊢
    omega
  obtain ⟨e, he, rfl⟩ := List.mem_map.1 hraw
  have he := (List.mem_filter.1 he).1
  cases h with
  | own => exact hmem he
  | type htype =>
    obtain ⟨outer, houter, -, heq⟩ := Entries.exists_mem_of_get? htype
    exact Nat.lt_trans (hmem he) (heq ▸ hmem houter)

lemma eq_of_forall₂ {raws : List Value} {ds es : List Descriptor}
    (hd : List.Forall₂ Normalizes raws ds) (he : List.Forall₂ Normalizes raws es)
    (h : ∀ raw ∈ raws, ∀ d e, Normalizes raw d → Normalizes raw e → d = e) : ds = es := by
  induction hd generalizing es with
  | nil =>
    cases he
    rfl
  | cons hfirst _ ih =>
    cases he with
    | cons hfirst' hrest' =>
      obtain ⟨hraw, hraws⟩ := List.forall_mem_cons.1 h
      rw [hraw _ _ hfirst hfirst', ih hrest' hraws]

lemma Normalizes.unique {definition : Value} {d e : Descriptor} (hd : Normalizes definition d)
    (he : Normalizes definition e) : d = e := by
  obtain ⟨kind, default, nested⟩ := d
  obtain ⟨kind', default', nested'⟩ := e
  rcases hd with ⟨hlists, rfl, rfl, hdefault⟩ | ⟨hlists, rfl, rfl, hdefault, hnames, hfields⟩ <;>
    rcases he with ⟨hlists', rfl, rfl, hdefault'⟩ |
      ⟨hlists', rfl, rfl, hdefault', hnames', hfields'⟩
  all_goals obtain rfl : default = default' :=
    Option.ext fun v => (hdefault v).trans (hdefault' v).symm
  · rfl
  · exact absurd hlists' (hlists _)
  · exact absurd hlists (hlists' _)
  · obtain rfl := hlists.unique hlists'
    have hdescriptors := eq_of_forall₂ hfields hfields' fun raw hraw _ _ =>
      have := hlists.sizeOf_lt hraw
      Normalizes.unique
    rw [Fields.eq_of_names (hnames.trans hnames'.symm) hdescriptors]
termination_by sizeOf definition

/-! ## Every definition has its normal form -/

lemma namedKind_of_marker {marker : Value} (h : marker.isMap = false) :
    namedKind marker = .ofMarker marker := by
  cases marker with
  | map => cases h
  | _ =>
    rw [namedKind]
    rintro _ ⟨⟩

lemma normalizes_of_marker {marker : Value} (h : marker.isMap = false) :
    Normalizes marker (plain (.ofMarker marker) none) := by
  have hlists : ∀ inner, ¬Lists marker inner := by
    rintro inner (_ | _) <;> cases h
  have hcarries : ∀ v, ¬Carries marker v := by
    rintro v (_ | _) <;> cases h
  refine .plain hlists rfl (namedKind_of_marker h).symm fun v => ?_
  exact ⟨by rintro ⟨⟩, fun hv => absurd hv (hcarries v)⟩

lemma normalizes_of_typeMarker {entries : Entries} {marker : Value}
    (htype : Entries.get? (.text "type") entries = some marker) (h : marker.isMap = false) :
    Normalizes (.map entries) (ofDefinition (.map entries)) := by
  rw [ofDefinition_of_typeMarker htype h]
  refine .plain ?_ rfl (by rw [namedKind, htype]; rfl) fun v => (carries_iff_of_type htype).symm
  rintro inner (⟨htype', -⟩ | ⟨htype', -, -⟩)
  · cases htype.symm.trans htype'
    cases h
  · cases htype.symm.trans htype'

/-- The `type` is a mapping: its fields are the sub-fields, if there are any. -/
lemma normalizes_of_typeMap {entries inner : Entries}
    (htype : Entries.get? (.text "type") entries = some (.map inner))
    (hinner : Fields.Normalize (fieldsOfEntries inner) inner) :
    Normalizes (.map entries) (ofDefinition (.map entries)) := by
  rw [ofDefinition_of_typeMap htype]
  have hdefault : ∀ v, defaultIn entries = some v ↔ Carries (.map entries) v := fun v =>
    (carries_iff_of_type htype).symm
  split_ifs with hempty
  · rw [List.isEmpty_iff, fieldsOfEntries_eq_nil_iff] at hempty
    refine .plain ?_ rfl (by rw [namedKind, htype]; rfl) hdefault
    rintro inner' (⟨htype', hkey⟩ | ⟨htype', -, -⟩)
    · cases htype.symm.trans htype'
      exact hempty hkey
    · cases htype.symm.trans htype'
  · rw [List.isEmpty_iff, fieldsOfEntries_eq_nil_iff, not_not] at hempty
    exact .structured (.type htype hempty) rfl rfl hdefault hinner.names hinner.descriptors

/-- There is no `type`: the entries define sub-fields unless they are nothing but a `default`. -/
lemma normalizes_of_no_type {entries : Entries}
    (htype : Entries.get? (.text "type") entries = none)
    (hentries : Fields.Normalize (fieldsOfEntries entries) entries) :
    Normalizes (.map entries) (ofDefinition (.map entries)) := by
  rw [ofDefinition_of_no_type htype]
  have hkind : namedKind (.map entries) = .structured := by rw [namedKind, htype]; rfl
  have hlists : ∀ inner, Lists (.map entries) inner →
      entries ≠ [] ∧ entries.keys ≠ [.text "default"] := by
    rintro inner (⟨htype', -⟩ | ⟨-, hne, hkeys⟩)
    · cases htype.symm.trans htype'
    · exact ⟨hne, hkeys⟩
  split_ifs with hempty hdefault
  · rw [List.isEmpty_iff] at hempty
    refine .plain (fun inner h => (hlists inner h).1 hempty) rfl hkind.symm fun v => ?_
    rw [carries_iff_of_no_type htype, hempty]
    exact ⟨by rintro ⟨⟩, by rintro ⟨⟨⟩, -⟩⟩
  · rw [keys_eq_default_iff] at hdefault
    refine .plain (fun inner h => (hlists inner h).2 hdefault) rfl hkind.symm fun v => ?_
    obtain ⟨w, rfl⟩ := exists_eq_of_keys hdefault
    rw [carries_iff_of_no_type htype, plain, defaultIn_eq_some_iff, and_congr_left_iff]
    exact fun _ => by simp [Entries.get?]
  · rw [List.isEmpty_iff] at hempty
    rw [keys_eq_default_iff] at hdefault
    refine .structured (.own htype hempty hdefault) rfl rfl (fun v => ?_) hentries.names
      hentries.descriptors
    rw [carries_iff_of_no_type htype]
    refine ⟨by rintro ⟨⟩, ?_⟩
    rintro ⟨rfl, -⟩
    exact absurd rfl hdefault

lemma normalize_identity {name : Value} (hname : name.same (.text identityField) = true)
    (definition : Value) {rest : Entries} {fields : Fields} (h : fields.Normalize rest) :
    fields.Normalize ((name, definition) :: rest) := by
  have hrest : Entries.declarations ((name, definition) :: rest) = rest.declarations := by
    simp [Entries.declarations, hname]
  exact ⟨hrest ▸ h.names, hrest ▸ h.descriptors⟩

lemma normalize_cons {name : Value} (hname : ¬name.same (.text identityField) = true)
    {definition : Value} {d : Descriptor} (hd : Normalizes definition d) {rest : Entries}
    {fields : Fields} (h : fields.Normalize rest) :
    Fields.Normalize ((name, d) :: fields) ((name, definition) :: rest) := by
  have hrest : Entries.declarations ((name, definition) :: rest) =
      (name, definition) :: rest.declarations := by
    simp [Entries.declarations, hname]
  refine ⟨?_, ?_⟩
  · rw [hrest]
    exact congrArg (name :: ·) h.names
  · rw [hrest]
    exact .cons hd h.descriptors

mutual

/-- The descriptor of a definition is its normal form. -/
lemma normalizes_ofDefinition :
    ∀ definition : Value, Normalizes definition (ofDefinition definition)
  | .map entries => by
    cases htype : Entries.get? (.text "type") entries with
    | none => exact normalizes_of_no_type htype (normalize_fieldsOfEntries entries)
    | some marker =>
      cases marker with
      | map inner =>
        have hinner := normalize_fieldsOfType entries inner htype
        rw [fieldsOfType_eq htype] at hinner
        exact normalizes_of_typeMap htype hinner
      | _ => exact normalizes_of_typeMarker htype rfl
  | .null | .bool _ | .int _ | .float _ | .decimal _ | .text _ | .bytes _ | .timestamp _ | .date _
  | .list _ | .tuple _ | .set _ | .pattern _ | .producer _ _ _ | .type _ | .kind _ | .operator _
  | .outcome _ _ => normalizes_of_marker rfl

lemma normalize_fieldsOfEntries :
    ∀ entries : Entries, Fields.Normalize (fieldsOfEntries entries) entries
  | [] => ⟨rfl, .nil⟩
  | (name, definition) :: rest => by
    have hrest := normalize_fieldsOfEntries rest
    rw [fieldsOfEntries]
    split_ifs with hname
    · exact normalize_identity hname definition hrest
    · exact normalize_cons hname (normalizes_ofDefinition definition) hrest

lemma normalize_fieldsOfType : ∀ entries inner : Entries,
    Entries.get? (.text "type") entries = some (.map inner) →
    Fields.Normalize (fieldsOfType entries) inner
  | [], _, h => by cases h
  | (key, value) :: rest, inner, h => by
    rw [Entries.get?] at h
    unfold fieldsOfType
    split_ifs at h ⊢ with hkey
    · cases value with
      | map entries => exact Value.map.inj (Option.some.inj h) ▸ normalize_fieldsOfEntries entries
      | _ => cases h
    · exact normalize_fieldsOfType rest inner h

end

end Descriptor

namespace Fields

lemma Normalize.unique {fields others : Fields} {entries : Entries} (h : fields.Normalize entries)
    (h' : others.Normalize entries) : fields = others :=
  eq_of_names (h.names.trans h'.names.symm)
    (Descriptor.eq_of_forall₂ h.descriptors h'.descriptors fun _ _ _ _ =>
      Descriptor.Normalizes.unique)

end Fields
end DocTable
