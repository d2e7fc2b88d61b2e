/-
# Fields that can be compared

Two sets of declared fields can be compared if no default holds a signaling decimal that is no
number and sub-fields are nested no deeper than they are compared. The comparison of any two values
without such decimals has an answer.
-/
import DocTable.Proofs.Schema.Fields
import DocTable.Proofs.Steps
import DocTable.Proofs.Value.Leaves
import DocTable.Schema.Equality

namespace DocTable
namespace Value

/-- Whether a value can be compared with any other: no leaf is a signaling decimal. -/
def isComparable (v : Value) : Bool := v.allLeaves fun leaf => !leaf.isSignaling

lemma isSignaling_of_isComparable {v : Value} (h : v.isComparable = true) :
    v.isSignaling = false := by
  cases v with
  | decimal x => exact Bool.not_eq_true' _ ▸ h
  | _ => rfl

/-! ## Values -/

lemma isSome_equalNumbers? {a b : Value} (ha : a.isComparable = true)
    (hb : b.isComparable = true) : (equalNumbers? a b).isSome = true := by
  rw [equalNumbers?, isSignaling_of_isComparable ha, isSignaling_of_isComparable hb]
  split_ifs with _ h
  · cases h
  · split <;> rfl
  · rfl

lemma equalItems?_cons_eq (x y : Value) (xs ys : List Value) :
    equalItems? (x :: xs) (y :: ys) =
      if x.matches? y = some true then equalItems? xs ys else x.matches? y := by
  rw [equalItems?, ← matches?]
  split <;> simp_all

lemma equalEntries?_cons_eq {k v k' w : Value} {es fs : Entries}
    (h : (fs.find? fun entry => k.isOccurrence entry.1 || equal? k entry.1 == some true) =
      some (k', w)) :
    equalEntries? ((k, v) :: es) fs =
      if v.matches? w = some true then equalEntries? es fs else v.matches? w := by
  rw [equalEntries?, h]
  dsimp only
  rw [← matches?]
  split <;> simp_all

lemma isComparable_list_iff {items : List Value} :
    (list items).isComparable = true ↔ ∀ v ∈ items, v.isComparable = true :=
  allLeaves_list_iff

lemma isComparable_map_iff {entries : Entries} :
    (map entries).isComparable = true ↔ ∀ e ∈ entries, e.2.isComparable = true :=
  allLeaves_map_iff

mutual

/-- The comparison of two values without signaling decimals has an answer. -/
lemma isSome_equal? : ∀ {a b : Value}, a.isComparable = true → b.isComparable = true →
    (equal? a b).isSome = true
  | bool _, _, ha, hb => isSome_equalNumbers? ha hb
  | int _, _, ha, hb => isSome_equalNumbers? ha hb
  | float _, _, ha, hb => isSome_equalNumbers? ha hb
  | decimal _, _, ha, hb => isSome_equalNumbers? ha hb
  | null, b, _, _ => by cases b <;> rfl
  | text _, b, _, _ => by cases b <;> rfl
  | bytes _, b, _, _ => by cases b <;> rfl
  | timestamp _, b, _, _ => by cases b <;> rfl
  | date _, b, _, _ => by cases b <;> rfl
  | type _, b, _, _ => by cases b <;> rfl
  | kind _, b, _, _ => by cases b <;> rfl
  | operator _, b, _, _ => by cases b <;> rfl
  | pattern _, b, _, _ => by cases b <;> rfl
  | producer _ _ _, b, _, _ => by cases b <;> rfl
  | outcome _ _, b, _, _ => by cases b <;> rfl
  -- lists, sets and mappings of different lengths differ without a look at what they hold
  | list xs, b, ha, hb => by
    cases b with
    | list ys =>
      rw [equal?]
      split_ifs
      · exact isSome_equalItems? (isComparable_list_iff.1 ha) (isComparable_list_iff.1 hb)
      · rfl
    | _ => rfl
  | tuple xs, b, ha, hb => by
    cases b with
    | tuple ys =>
      exact isSome_equalItems? (isComparable_list_iff.1 ha) (isComparable_list_iff.1 hb)
    | _ => rfl
  | set xs, b, ha, hb => by
    cases b with
    | set ys =>
      rw [equal?]
      split_ifs
      · exact isSome_equalItems? (isComparable_list_iff.1 ha) (isComparable_list_iff.1 hb)
      · rfl
    | _ => rfl
  | map es, b, ha, hb => by
    cases b with
    | map fs =>
      rw [equal?]
      split_ifs
      · exact isSome_equalEntries? (isComparable_map_iff.1 ha) (isComparable_map_iff.1 hb)
      · rfl
    | _ => rfl

lemma isSome_equalItems? : ∀ {xs ys : List Value}, (∀ v ∈ xs, v.isComparable = true) →
    (∀ v ∈ ys, v.isComparable = true) → (equalItems? xs ys).isSome = true
  | [], _, _, _ => rfl
  | _ :: _, [], _, _ => rfl
  | x :: xs, y :: ys, hx, hy => by
    obtain ⟨hx, hxs⟩ := List.forall_mem_cons.1 hx
    obtain ⟨hy, hys⟩ := List.forall_mem_cons.1 hy
    rw [equalItems?_cons_eq]
    split_ifs
    · exact isSome_equalItems? hxs hys
    · rw [matches?]
      split_ifs
      · rfl
      · exact isSome_equal? hx hy

lemma isSome_equalEntries? : ∀ {es fs : List (Value × Value)},
    (∀ e ∈ es, e.2.isComparable = true) → (∀ e ∈ fs, e.2.isComparable = true) →
    (equalEntries? es fs).isSome = true
  | [], _, _, _ => rfl
  | (k, v) :: es, fs, hes, hfs => by
    obtain ⟨hv, hes⟩ := List.forall_mem_cons.1 hes
    cases hfind : fs.find? fun entry => k.isOccurrence entry.1 || equal? k entry.1 == some true with
    | none => rw [equalEntries?, hfind]; rfl
    | some found =>
      rw [equalEntries?_cons_eq hfind]
      split_ifs
      · exact isSome_equalEntries? hes hfs
      · rw [matches?]
        split_ifs
        · rfl
        · exact isSome_equal? hv (hfs found (List.mem_of_find?_eq_some hfind))

end

lemma isSome_matches? {a b : Value} (ha : a.isComparable = true) (hb : b.isComparable = true) :
    (a.matches? b).isSome = true := by
  rw [matches?]
  split_ifs
  · rfl
  · exact isSome_equal? ha hb

end Value

/-! ## Fields -/

lemma succeeds_matchDefaults {default other : Option Value}
    (h : ∀ v, default = some v → v.isComparable = true)
    (hother : ∀ v, other = some v → v.isComparable = true) :
    Succeeds (matchDefaults default other) := by
  rcases default with - | a <;> rcases other with - | b
  · exact succeeds_ok _
  · exact succeeds_ok _
  · exact succeeds_ok _
  · obtain ⟨answer, hanswer⟩ := Option.isSome_iff_exists.1
      (Value.isSome_matches? (h a rfl) (hother b rfl))
    rw [matchDefaults, hanswer]
    exact succeeds_ok _

/-- Two descriptors can be compared if their defaults can, and the sub-fields if both have some. -/
lemma succeeds_compare_of_nested {depth : Nat} {d other : Descriptor}
    (hdefaults : Succeeds (matchDefaults d.default other.default))
    (hnested : ∀ fields others, d.nested = some fields → other.nested = some others →
      ∃ below, depth = below + 1 ∧ Succeeds (Fields.within below fields others)) :
    Succeeds (Descriptor.compare depth d other) := by
  obtain ⟨kind, default, nested⟩ := d
  obtain ⟨otherKind, otherDefault, otherNested⟩ := other
  obtain ⟨matched, hmatched⟩ := hdefaults
  dsimp only at hmatched
  rw [Descriptor.compare.eq_def]
  dsimp only
  rw [hmatched]
  split_ifs
  · exact succeeds_ok _
  · simp only [ok_bind, pure_eq_ok, throw_eq_error]
    split_ifs
    · exact succeeds_ok _
    · rcases nested with - | fields <;> rcases otherNested with - | others
      · exact succeeds_ok _
      · exact succeeds_ok _
      · exact succeeds_ok _
      · obtain ⟨below, rfl, hwithin⟩ := hnested fields others rfl rfl
        dsimp only
        split_ifs
        · exact hwithin
        · exact succeeds_ok _

lemma one_le_depth (fields : Fields) : 1 ≤ Fields.depth fields := by
  cases fields with
  | nil => exact Nat.le_refl 1
  | cons f fields =>
    rw [Fields.depth]
    exact Nat.le_trans (Nat.le_add_left 1 _) (Nat.le_max_left _ _)

mutual

lemma succeeds_compare : ∀ {depth : Nat} {d other : Descriptor}, d.depth ≤ depth →
    d.DefaultsSatisfy (fun v => v.isComparable = true) →
    other.DefaultsSatisfy (fun v => v.isComparable = true) →
    Succeeds (Descriptor.compare depth d other)
  | depth, ⟨kind, default, none⟩, other, _, hd, hother =>
    succeeds_compare_of_nested (succeeds_matchDefaults (fun _ hv => hd.own hv)
      fun _ hv => hother.own hv) fun _ _ hnested => by cases hnested
  | depth, ⟨kind, default, some fields⟩, other, hdepth, hd, hother => by
    refine succeeds_compare_of_nested (succeeds_matchDefaults (fun _ hv => hd.own hv)
      fun _ hv => hother.own hv) ?_
    rintro _ others ⟨⟩ hothers
    obtain ⟨below, rfl⟩ := Nat.exists_eq_add_of_le' (Nat.le_trans (one_le_depth fields) hdepth)
    exact ⟨below, rfl, succeeds_within hdepth (hd.fields rfl) (hother.fields hothers)⟩

lemma succeeds_within : ∀ {depth : Nat} {fields others : Fields}, Fields.depth fields ≤ depth + 1 →
    fields.DefaultsSatisfy (fun v => v.isComparable = true) →
    others.DefaultsSatisfy (fun v => v.isComparable = true) →
    Succeeds (Fields.within depth fields others)
  | _, [], _, _, _, _ => succeeds_ok _
  | depth, (name, d) :: rest, others, hdepth, hfields, hothers => by
    rw [Fields.depth, Nat.max_le, Nat.add_le_add_iff_right] at hdepth
    rw [Fields.within]
    split
    · exact succeeds_ok _
    · rename_i other hfind
      obtain ⟨same, hsame⟩ := succeeds_compare hdepth.1 hfields.head
        (hothers _ (List.mem_of_find?_eq_some hfind))
      rw [hsame, ok_bind]
      split_ifs
      · exact succeeds_within hdepth.2 hfields.tail hothers
      · exact succeeds_ok _

end

/-- Fields without signaling decimals in their defaults can be compared if the sub-fields of the
first are not nested too deeply. -/
lemma Fields.succeeds_compare {fields others : Fields} (hdepth : depth fields ≤ comparedDepth + 1)
    (hfields : fields.DefaultsSatisfy fun v => v.isComparable = true)
    (hothers : others.DefaultsSatisfy fun v => v.isComparable = true) :
    Succeeds (Fields.compare fields others) := by
  rw [Fields.compare]
  split_ifs
  · exact succeeds_within hdepth hfields hothers
  · exact succeeds_ok _

/-! ## Why a comparison fails -/

/-- The faults of a comparison. -/
def Fault.isOfComparison (fault : Fault) : Prop := fault = .incomparable ∨ fault = .tooDeep

lemma isOfComparison_matchDefaults {default other : Option Value} {fault : Fault}
    (h : matchDefaults default other = .error fault) : fault.isOfComparison := by
  rw [matchDefaults.eq_def] at h
  split at h
  · cases h
  · split at h
    · cases h
    · cases h
      exact .inl rfl
  · cases h

mutual

lemma isOfComparison_compare : ∀ {depth : Nat} {d other : Descriptor} {fault : Fault},
    Descriptor.compare depth d other = .error fault → fault.isOfComparison
  | depth, ⟨kind, default, nested⟩, ⟨otherKind, otherDefault, otherNested⟩, fault, h => by
    rw [Descriptor.compare.eq_def] at h
    dsimp only at h
    split_ifs at h
    · cases h
    · rcases bind_eq_error_iff.1 h with h | ⟨matched, -, h⟩
      · exact isOfComparison_matchDefaults h
      · split_ifs at h
        · cases h
        · rcases nested with - | fields <;> rcases otherNested with - | others
          · cases h
          · cases h
          · cases h
          · rcases depth with - | depth
            · cases h
              exact .inr rfl
            · dsimp only at h
              split_ifs at h
              · exact isOfComparison_within h
              · cases h

lemma isOfComparison_within : ∀ {depth : Nat} {fields others : Fields} {fault : Fault},
    Fields.within depth fields others = .error fault → fault.isOfComparison
  | _, [], _, _, h => by cases h
  | depth, (name, d) :: rest, others, fault, h => by
    rw [Fields.within] at h
    split at h
    · cases h
    · rcases bind_eq_error_iff.1 h with h | ⟨same, -, h⟩
      · exact isOfComparison_compare h
      · split_ifs at h
        · exact isOfComparison_within h
        · cases h

end

lemma Fields.isOfComparison_compare {fields others : Fields} {fault : Fault}
    (h : Fields.compare fields others = .error fault) : fault.isOfComparison := by
  rw [Fields.compare] at h
  split_ifs at h
  exact isOfComparison_within h

end DocTable
