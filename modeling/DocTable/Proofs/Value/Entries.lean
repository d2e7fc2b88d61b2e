/-
# Entries with distinct keys

The keys of a mapping can be compared, and no two of them are the same. Setting a key that is absent
appends an entry, and setting one that is present changes the value of that entry and no other. So a
sequence of assignments to different keys leaves those very entries, and setting keeps the keys
different.
-/
import DocTable.Proofs.Value.Key

namespace DocTable
namespace Entries

/-- No two of the keys are the same. -/
def Distinct (entries : Entries) : Prop := entries.Pairwise fun a b => a.1.same b.1 = false

/-- Entries with texts for keys, no two of them the same. -/
structure Named (entries : Entries) : Prop where
  texts : ∀ entry ∈ entries, ∃ name, entry.1 = .text name
  nodup : entries.keys.Nodup

lemma same_text_eq_false {s : String} {v : Value} (h : .text s ≠ v) :
    (Value.text s).same v = false := by
  rw [← Bool.not_eq_true, Value.same_text_iff]
  exact h

lemma Named.distinct {entries : Entries} (h : entries.Named) : entries.Distinct := by
  have hne : entries.Pairwise fun a b => a.1 ≠ b.1 := List.pairwise_map.1 h.nodup
  refine hne.imp_of_mem fun {a b} ha _ hab => ?_
  obtain ⟨s, hs⟩ := h.texts a ha
  rw [hs] at hab ⊢
  exact same_text_eq_false hab

/-- What is said of the names only depends on the keys. -/
lemma Named.of_keys_eq {entries ws : Entries} (h : entries.Named) (hkeys : ws.keys = entries.keys) :
    ws.Named := by
  refine ⟨fun e he => ?_, hkeys ▸ h.nodup⟩
  have hmem : e.1 ∈ entries.keys := hkeys ▸ List.mem_map_of_mem he
  obtain ⟨e', he', heq⟩ := List.mem_map.1 hmem
  exact heq ▸ h.texts e' he'

lemma put_of_absent {key value : Value} {entries : Entries}
    (h : ∀ e ∈ entries, e.1.same key = false) :
    put key value entries = entries ++ [(key, value)] := by
  induction entries with
  | nil => rfl
  | cons e es ih =>
    have he : e.1.same key = false := h e List.mem_cons_self
    have hes := ih fun u hu => h u (List.mem_cons_of_mem _ hu)
    rw [put, he, hes]
    rfl

lemma foldl_put_of_distinct {entries pairs : Entries} (h : (entries ++ pairs).Distinct) :
    pairs.foldl (fun es pair => put pair.1 pair.2 es) entries = entries ++ pairs := by
  induction pairs generalizing entries with
  | nil => simp
  | cons p ps ih =>
    have habsent : ∀ e ∈ entries, e.1.same p.1 = false := fun e he =>
      (List.pairwise_append.1 h).2.2 e he p List.mem_cons_self
    have happ : entries ++ p :: ps = entries ++ [p] ++ ps := by simp
    rw [List.foldl_cons, put_of_absent habsent, ih (happ ▸ h), happ]

/-- Assignments to different keys leave the entries that were assigned. -/
lemma ofAssignments_of_distinct {pairs : Entries} (h : pairs.Distinct) :
    ofAssignments pairs = pairs :=
  foldl_put_of_distinct (List.nil_append pairs ▸ h)

/-! ## Proper keys -/

/-- What is asked of the keys of a mapping: each of them can be compared with any other, and no two
are the same. -/
structure ProperKeys (keys : List Value) : Prop where
  canBeKey : ∀ key ∈ keys, key.canBeKey = true
  distinct : keys.Pairwise fun a b => a.same b = false

lemma properKeys_cons {key : Value} {keys : List Value} :
    ProperKeys (key :: keys) ↔
      key.canBeKey = true ∧ (∀ k ∈ keys, key.same k = false) ∧ ProperKeys keys := by
  constructor
  · rintro ⟨hc, hd⟩
    rw [List.pairwise_cons] at hd
    exact ⟨hc key List.mem_cons_self, hd.1, fun k hk => hc k (List.mem_cons_of_mem _ hk), hd.2⟩
  · rintro ⟨hkey, hne, hc, hd⟩
    exact ⟨List.forall_mem_cons.2 ⟨hkey, hc⟩, List.pairwise_cons.2 ⟨hne, hd⟩⟩

lemma ProperKeys.append {keys : List Value} (h : ProperKeys keys) {key : Value}
    (hkey : key.canBeKey = true) (hne : ∀ k ∈ keys, k.same key = false) :
    ProperKeys (keys ++ [key]) := by
  refine ⟨fun k hk => ?_, List.pairwise_append.2 ⟨h.distinct, by simp, by simpa using hne⟩⟩
  rcases List.mem_append.1 hk with hk | hk
  · exact h.canBeKey k hk
  · rwa [List.mem_singleton.1 hk]

lemma ProperKeys.sublist {keys others : List Value} (h : ProperKeys keys)
    (hsub : others.Sublist keys) : ProperKeys others :=
  ⟨fun k hk => h.canBeKey k (hsub.subset hk), h.distinct.sublist hsub⟩

lemma ProperKeys.nodup {keys : List Value} (h : ProperKeys keys) : keys.Nodup := by
  refine h.distinct.imp_of_mem fun {a b} ha _ hab heq => ?_
  rw [← heq, Value.same_refl (h.canBeKey a ha)] at hab
  cases hab

lemma ProperKeys.distinct_entries {entries : Entries} (h : ProperKeys entries.keys) :
    entries.Distinct :=
  List.pairwise_map.1 h.distinct

lemma Named.properKeys {entries : Entries} (h : entries.Named) : ProperKeys entries.keys := by
  refine ⟨fun key hkey => ?_, List.pairwise_map.2 h.distinct⟩
  obtain ⟨e, he, rfl⟩ := List.mem_map.1 hkey
  obtain ⟨name, hname⟩ := h.texts e he
  rw [hname]
  rfl

/-! ## Looking up and setting -/

lemma get?_eq_none_iff {key : Value} {entries : Entries} :
    get? key entries = none ↔ ∀ e ∈ entries, e.1.same key = false := by
  induction entries with
  | nil => simp [get?]
  | cons e es ih =>
    cases h : e.1.same key <;> simp [get?, h, ih]

lemma exists_mem_of_get? {key value : Value} {entries : Entries}
    (h : get? key entries = some value) : ∃ e ∈ entries, e.1.same key = true ∧ e.2 = value := by
  induction entries with
  | nil => cases h
  | cons e es ih =>
    rw [get?] at h
    split_ifs at h with hkey
    · exact ⟨e, List.mem_cons_self, hkey, Option.some.inj h⟩
    · obtain ⟨e', he', hsame, heq⟩ := ih h
      exact ⟨e', List.mem_cons_of_mem _ he', hsame, heq⟩

lemma has_eq_any (key : Value) (entries : Entries) :
    has key entries = entries.keys.any fun k => k.same key := by
  induction entries with
  | nil => rfl
  | cons e es ih =>
    simp only [has, get?, keys, List.map_cons, List.any_cons] at ih ⊢
    cases h : e.1.same key with
    | true => rfl
    | false => simpa using ih

/-- Setting a key to the value that it has changes nothing. -/
lemma put_of_get? {key value : Value} {entries : Entries} (h : get? key entries = some value) :
    put key value entries = entries := by
  induction entries with
  | nil => cases h
  | cons e es ih =>
    rw [get?] at h
    rw [put]
    split_ifs at h ⊢ with hkey
    · rw [← Option.some.inj h]
    · rw [ih h]

/-- Of two keys that are the same, a third one is the same as both or as neither. -/
lemma same_eq_false_of_same {a b c : Value} (ha : a.canBeKey = true) (hb : b.canBeKey = true)
    (hc : c.canBeKey = true) (hac : a.same c = false) (hbc : b.same c = true) :
    a.same b = false := by
  rw [← Bool.not_eq_true] at hac ⊢
  exact fun hab => hac (Value.same_trans ha hb hc hab hbc)

/-- What is found under a key is the value of the entry whose key is the same. -/
lemma get?_of_mem {key : Value} {entries : Entries} (hkeys : ProperKeys entries.keys)
    (hkey : key.canBeKey = true) {e : Value × Value} (he : e ∈ entries)
    (hsame : e.1.same key = true) : get? key entries = some e.2 := by
  induction entries with
  | nil => cases he
  | cons first es ih =>
    obtain ⟨hfirst, hne, hes⟩ := properKeys_cons.1 hkeys
    rcases List.mem_cons.1 he with rfl | he
    · simp [get?, hsame]
    · -- the first entry cannot be meant, since its key is not the same as that of `e`
      have hmem : e.1 ∈ keys es := List.mem_map_of_mem he
      have he1 := hes.canBeKey _ hmem
      have hother : first.1.same key = false := by
        refine same_eq_false_of_same hfirst hkey he1 (hne _ hmem) ?_
        rwa [Value.same_symm hkey he1]
      simp [get?, hother, ih hes he]

lemma keys_map (entries : Entries) (new : Value × Value → Value) :
    keys (entries.map fun e => (e.1, new e)) = entries.keys := by
  rw [keys, List.map_map]
  rfl

/-- A value that is replaced for its key is found under every key that is replaced alike. -/
lemma get?_map {key : Value} {entries : Entries} (new : Value → Value → Value)
    (h : ∀ e ∈ entries, e.1.same key = true → new e.1 = new key) :
    get? key (entries.map fun e => (e.1, new e.1 e.2)) = (get? key entries).map (new key) := by
  induction entries with
  | nil => rfl
  | cons e es ih =>
    obtain ⟨hfirst, hes⟩ := List.forall_mem_cons.1 h
    rw [List.map_cons, get?, get?]
    split_ifs with hsame
    · rw [hfirst hsame, Option.map_some]
    · exact ih hes

/-- Entries whose values are replaced by themselves. -/
lemma map_eq_self {entries : Entries} {new : Value × Value → Value}
    (h : ∀ e ∈ entries, new e = e.2) : (entries.map fun e => (e.1, new e)) = entries := by
  rw [List.map_congr_left fun e he => by rw [h e he]]
  exact List.map_id _

lemma map_ite_of_absent {key value : Value} {entries : Entries}
    (h : ∀ e ∈ entries, e.1.same key = false) :
    (entries.map fun e => (e.1, if e.1.same key then value else e.2)) = entries :=
  map_eq_self fun e he => by rw [h e he, if_neg Bool.false_ne_true]

/-- Setting a key that is present changes the value of its entry. -/
lemma put_of_present {key value : Value} {entries : Entries} (hkeys : ProperKeys entries.keys)
    (hkey : key.canBeKey = true) (h : get? key entries ≠ none) :
    put key value entries = entries.map fun e => (e.1, if e.1.same key then value else e.2) := by
  induction entries with
  | nil => exact absurd rfl h
  | cons first es ih =>
    obtain ⟨hfirst, hne, hes⟩ := properKeys_cons.1 hkeys
    obtain ⟨k, v⟩ := first
    rw [List.map_cons, put]
    cases hk : k.same key with
    | true =>
      -- no entry behind this one has the key again
      have habsent : ∀ e ∈ es, e.1.same key = false := fun e he => by
        have hmem : e.1 ∈ keys es := List.mem_map_of_mem he
        have he1 := hes.canBeKey _ hmem
        refine same_eq_false_of_same he1 hkey hfirst ?_ (by rwa [Value.same_symm hkey hfirst])
        rw [Value.same_symm he1 hfirst, hne _ hmem]
      simp only [if_true, map_ite_of_absent habsent]
    | false =>
      have hget : get? key es ≠ none := by simpa [get?, hk] using h
      simp only [Bool.false_eq_true, if_false, ih hes hget]

/-- Setting keeps the keys proper. -/
lemma properKeys_put {key value : Value} {entries : Entries} (hkeys : ProperKeys entries.keys)
    (hkey : key.canBeKey = true) : ProperKeys (put key value entries).keys := by
  cases h : get? key entries with
  | none =>
    have habsent := get?_eq_none_iff.1 h
    have happ : (put key value entries).keys = entries.keys ++ [key] := by
      rw [put_of_absent habsent, keys, List.map_append]
      rfl
    rw [happ]
    exact hkeys.append hkey (List.forall_mem_map.2 habsent)
  | some v =>
    have hsame : (put key value entries).keys = entries.keys := by
      rw [put_of_present hkeys hkey (by rw [h]; simp), keys, List.map_map]
      rfl
    rwa [hsame]

/-- Setting a key leaves old entries, and one with the value that was set. -/
lemma mem_put {key value : Value} {entries : Entries} {e : Value × Value}
    (h : e ∈ put key value entries) :
    e ∈ entries ∨ e.2 = value ∧ (e.1 = key ∨ e.1 ∈ entries.keys) := by
  induction entries with
  | nil =>
    obtain rfl := List.mem_singleton.1 h
    exact .inr ⟨rfl, .inl rfl⟩
  | cons first es ih =>
    obtain ⟨k, v⟩ := first
    rw [put] at h
    split_ifs at h
    · rcases List.mem_cons.1 h with rfl | h
      · exact .inr ⟨rfl, .inr List.mem_cons_self⟩
      · exact .inl (List.mem_cons_of_mem _ h)
    · rcases List.mem_cons.1 h with rfl | h
      · exact .inl List.mem_cons_self
      · exact (ih h).imp (List.mem_cons_of_mem _) fun ⟨hvalue, hkey⟩ =>
          ⟨hvalue, hkey.imp_right (List.mem_cons_of_mem _)⟩

/-- What has been set under a key is found under it. -/
lemma get?_put {key : Value} (hkey : key.canBeKey = true) (value : Value) (entries : Entries) :
    get? key (put key value entries) = some value := by
  have hself := Value.same_refl hkey
  induction entries with
  | nil => simp [put, get?, hself]
  | cons first es ih =>
    obtain ⟨k, v⟩ := first
    rw [put]
    cases hk : k.same key <;> simp [get?, hk, ih]

/-- Setting a key changes nothing under the other keys. -/
lemma get?_put_of_not_same {key other value : Value} {entries : Entries}
    (hkeys : ProperKeys entries.keys) (hkey : key.canBeKey = true) (hother : other.canBeKey = true)
    (h : key.same other = false) : get? other (put key value entries) = get? other entries := by
  induction entries with
  | nil => simp [put, get?, h]
  | cons first es ih =>
    obtain ⟨hfirst, -, hes⟩ := properKeys_cons.1 hkeys
    obtain ⟨k, v⟩ := first
    rw [put]
    cases hk : k.same key with
    | true =>
      have hk' : key.same k = true := by rwa [Value.same_symm hkey hfirst]
      have hne : k.same other = false := by
        rw [← Bool.not_eq_true] at h ⊢
        exact fun hsame => h (Value.same_trans hkey hfirst hother hk' hsame)
      simp [get?, hne]
    | false => simp [get?, ih hes]

/-! ## Sequences of assignments -/

lemma named_put {name : String} {value : Value} {entries : Entries} (h : entries.Named) :
    (put (.text name) value entries).Named := by
  refine ⟨fun e he => ?_, (properKeys_put h.properKeys rfl).nodup⟩
  rcases mem_put he with he | ⟨-, hkey | hkey⟩
  · exact h.texts e he
  · exact ⟨name, hkey⟩
  · obtain ⟨old, hold, heq⟩ := List.mem_map.1 hkey
    exact heq ▸ h.texts old hold

lemma named_foldl_put {entries pairs : Entries} (h : entries.Named)
    (hpairs : ∀ pair ∈ pairs, ∃ name, pair.1 = .text name) :
    (pairs.foldl (fun es pair => put pair.1 pair.2 es) entries).Named := by
  induction pairs generalizing entries with
  | nil => exact h
  | cons pair pairs ih =>
    obtain ⟨⟨name, hname⟩, hpairs⟩ := List.forall_mem_cons.1 hpairs
    rw [List.foldl_cons, hname]
    exact ih (named_put h) hpairs

/-- Assignments to names leave entries with names. -/
lemma named_ofAssignments {pairs : Entries} (h : ∀ pair ∈ pairs, ∃ name, pair.1 = .text name) :
    (ofAssignments pairs).Named :=
  named_foldl_put ⟨by simp, by simp [keys]⟩ h

lemma forall_mem_foldl_put {p : Value → Prop} {entries pairs : Entries} (h : ∀ e ∈ entries, p e.2)
    (hpairs : ∀ pair ∈ pairs, p pair.2) :
    ∀ e ∈ pairs.foldl (fun es pair => put pair.1 pair.2 es) entries, p e.2 := by
  induction pairs generalizing entries with
  | nil => exact h
  | cons pair pairs ih =>
    obtain ⟨hpair, hpairs⟩ := List.forall_mem_cons.1 hpairs
    refine ih (fun e he => ?_) hpairs
    rcases mem_put he with he | ⟨hvalue, -⟩
    · exact h e he
    · exact hvalue ▸ hpair

/-- Assignments leave no other values than those that were assigned. -/
lemma forall_mem_ofAssignments {p : Value → Prop} {pairs : Entries}
    (h : ∀ pair ∈ pairs, p pair.2) : ∀ e ∈ ofAssignments pairs, p e.2 :=
  forall_mem_foldl_put (by simp) h

end Entries

/-- Only mappings have entries. -/
lemma Value.eq_map_of_entries {v : Value} {entries : Entries} (h : v.entries = .ok entries) :
    v = .map entries := by
  cases v with
  | map es => cases h; rfl
  | type marker => cases marker <;> cases h
  | _ => cases h

/-! ## Paths -/

/-- What a value holds at a path of names, through mappings only. -/
def Value.at? : Value → List Value → Option Value
  | v, [] => some v
  | .map entries, name :: below => (Entries.get? name entries).bind fun w => w.at? below
  | _, _ :: _ => none

lemma Value.at?_cons_of_leaf {v : Value} (h : v.isMap = false) (name : Value)
    (below : List Value) : v.at? (name :: below) = none := by
  cases v with
  | map entries => cases h
  | _ => rfl

end DocTable
