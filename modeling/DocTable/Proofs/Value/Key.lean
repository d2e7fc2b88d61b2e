/-
# What makes two keys the same

Keys are compared by what they stand for: numbers of all types by their exact value, points in time
with an offset by their instant, producers by their identity, tuples item by item, and all else as
it is. `Key` holds what is left of a value when everything that the comparison overlooks has been
taken away, so that two keys are the same exactly when they leave the same, and being the same is an
equivalence of keys.
-/
import DocTable.Value.Elements
import DocTable.Proofs.Steps

namespace DocTable

/-- What a value stands for as a key. -/
inductive Key where
  /-- A number of any type. -/
  | number (x : Number.Exact)
  /-- An instant: seconds and microseconds. -/
  | instant (seconds : Int) (micro : Nat)
  /-- Something that yields values. -/
  | producer (id : Nat)
  /-- A sequence of keys. -/
  | tuple (items : List Key)
  /-- A value that is the same as nothing but itself. -/
  | value (v : Value)

namespace Value

mutual

/-- What is left of a value when everything has been taken away that does not matter in a key. -/
def key : Value → Key
  | bool b => .number (.ofInt b.toInt)
  | int n => .number (.ofInt n)
  | float x => (x.exactValue?.map Key.number).getD (.value (float x))
  | decimal x => (x.exactValue?.map Key.number).getD (.value (decimal x))
  | timestamp t =>
    match t.offset with
    | none => .value (timestamp t)
    | some _ => .instant t.utcSeconds t.micro
  | tuple items => .tuple (keyOfItems items)
  | producer id _ _ => .producer id
  | v => .value v

/-- What is left of the items of a sequence. -/
def keyOfItems : List Value → List Key
  | [] => []
  | v :: vs => key v :: keyOfItems vs

end

/-! ## Which values leave a given key -/

lemma eq_of_key_eq_value {a b : Value} (h : a.key = .value b) : a = b := by
  cases a with
  | float x => cases hx : x.exactValue? <;> simp_all [key]
  | decimal x => cases hx : x.exactValue? <;> simp_all [key]
  | timestamp t =>
    rw [key] at h
    split at h
    · exact Key.value.inj h
    · cases h
  | _ => simp_all [key]

lemma exactValue?_of_key_eq_number {a : Value} {x : Number.Exact} (h : a.key = .number x) :
    a.isNumeric = true ∧ a.exactValue? = some x := by
  cases a with
  | float y => cases hy : y.exactValue? <;> simp_all [key, isNumeric, exactValue?]
  | decimal y => cases hy : y.exactValue? <;> simp_all [key, isNumeric, exactValue?]
  | timestamp t => rw [key] at h; split at h <;> cases h
  | _ => simp_all [key, isNumeric, exactValue?]

/-! ## The comparison by cases -/

lemma eq_of_isOccurrence {a b : Value} (h : a.isOccurrence b = true) : a = b := by
  unfold isOccurrence at h
  split at h <;> simp_all

lemma isOccurrence_self {a : Value} (hn : a.isNumeric = true) (hx : a.exactValue? = none) :
    a.isOccurrence a = true := by
  cases a with
  | float x =>
    have hnan : x.isNaN = true := by
      by_contra h
      rw [exactValue?, Binary64.exactValue?, if_neg h] at hx
      split at hx <;> cases hx
    simp [isOccurrence, hnan]
  | decimal x => cases x <;> simp_all [exactValue?, Decimal.exactValue?, isOccurrence]
  | _ => simp_all [isNumeric, exactValue?]

lemma equalNumbers?_iff {a b : Value} (ha : a.isSignaling = false) (hb : b.isSignaling = false) :
    equalNumbers? a b = some true ↔
      a.isNumeric = true ∧ b.isNumeric = true ∧
        ∃ x, a.exactValue? = some x ∧ b.exactValue? = some x := by
  unfold equalNumbers?
  cases a.isNumeric with
  | false => simp
  | true =>
    cases b.isNumeric with
    | false => simp
    | true =>
      have hcomm : ∀ x y : Number.Exact, y = x ↔ x = y := fun _ _ => eq_comm
      cases a.exactValue? <;> cases b.exactValue? <;> simp [ha, hb, hcomm]

lemma isSignaling_of_canBeKey {a : Value} (h : a.canBeKey = true) : a.isSignaling = false := by
  cases a <;> simp_all [canBeKey, isSignaling]

lemma key_of_isNumeric {a : Value} (h : a.isNumeric = true) :
    a.key = (a.exactValue?.map Key.number).getD (.value a) := by
  cases a <;> simp_all [isNumeric, key, exactValue?]

lemma same_iff_of_isNumeric {a b : Value} (hn : a.isNumeric = true) (ha : a.canBeKey = true)
    (hb : b.canBeKey = true) (hequal : a.equal? b = equalNumbers? a b) :
    a.same b = true ↔ a.key = b.key := by
  have hsame : a.same b = true ↔ a.isOccurrence b = true ∨ equalNumbers? a b = some true := by
    rw [same, matches?, hequal, beq_iff_eq]
    split_ifs with h <;> simp [h]
  rw [hsame, equalNumbers?_iff (isSignaling_of_canBeKey ha) (isSignaling_of_canBeKey hb)]
  constructor
  · rintro (h | ⟨-, hnb, x, hax, hbx⟩)
    · rw [eq_of_isOccurrence h]
    · rw [key_of_isNumeric hn, key_of_isNumeric hnb, hax, hbx]
      rfl
  · intro h
    rw [key_of_isNumeric hn] at h
    cases hax : a.exactValue? with
    | some x =>
      -- only numbers leave a number
      rw [hax] at h
      obtain ⟨hnb, hbx⟩ := exactValue?_of_key_eq_number h.symm
      exact Or.inr ⟨hn, hnb, x, rfl, hbx⟩
    | none =>
      -- what is no number leaves itself, so the other key is that very occurrence
      rw [hax] at h
      rw [eq_of_key_eq_value h.symm]
      exact Or.inl (isOccurrence_self hn hax)

/-- A value that is the same as nothing but itself. -/
def isAtom : Value → Bool
  | null => true
  | text _ => true
  | bytes _ => true
  | date _ => true
  | type _ => true
  | kind _ => true
  | operator _ => true
  | pattern _ => true
  | outcome .. => true
  | _ => false

lemma same_iff_eq_of_isAtom {a b : Value} (ha : a.isAtom = true) : a.same b = true ↔ a = b := by
  cases a with
  | null => cases b <;> simp [same, matches?, isOccurrence, equal?]
  | text s => cases b <;> simp [same, matches?, isOccurrence, equal?]
  | bytes s => cases b <;> simp [same, matches?, isOccurrence, equal?]
  | date d => cases b <;> simp [same, matches?, isOccurrence, equal?]
  | type m => cases b <;> simp [same, matches?, isOccurrence, equal?]
  | kind k => cases b <;> simp [same, matches?, isOccurrence, equal?]
  | operator o => cases b <;> simp [same, matches?, isOccurrence, equal?]
  | pattern p => cases b <;> simp [same, matches?, isOccurrence, equal?]
  | outcome i n => cases b <;> simp [same, matches?, isOccurrence, equal?]
  | _ => cases ha

lemma key_of_isAtom {a : Value} (ha : a.isAtom = true) : a.key = .value a := by
  cases a <;> simp_all [isAtom, key]

lemma eq_iff_key_eq_of_value {a b : Value} (ha : a.key = .value a) : a = b ↔ a.key = b.key := by
  constructor
  · rintro rfl; rfl
  · intro h
    rw [ha] at h
    exact (eq_of_key_eq_value h.symm).symm

lemma same_iff_of_isAtom {a b : Value} (ha : a.isAtom = true) : a.same b = true ↔ a.key = b.key :=
  (same_iff_eq_of_isAtom ha).trans (eq_iff_key_eq_of_value (key_of_isAtom ha))

lemma exists_of_key_eq_instant {a : Value} {seconds : Int} {micro : Nat}
    (h : a.key = .instant seconds micro) :
    ∃ t o, a = timestamp t ∧ t.offset = some o ∧ t.utcSeconds = seconds ∧ t.micro = micro := by
  cases a with
  | timestamp t => cases ho : t.offset <;> simp_all [key]
  | float x => cases hx : x.exactValue? <;> simp_all [key]
  | decimal x => cases hx : x.exactValue? <;> simp_all [key]
  | _ => simp_all [key]

lemma timestamp_same_iff {t : Timestamp} {b : Value} :
    (timestamp t).same b = true ↔ ∃ u, b = timestamp u ∧ t.same u = true := by
  cases b <;> simp [same, matches?, isOccurrence, equal?]

lemma same_iff_of_timestamp {t : Timestamp} {b : Value} :
    (timestamp t).same b = true ↔ (timestamp t).key = b.key := by
  rw [timestamp_same_iff]
  cases ho : t.offset with
  | none =>
    have hkey : (timestamp t).key = .value (timestamp t) := by simp [key, ho]
    rw [← eq_iff_key_eq_of_value hkey]
    constructor
    · rintro ⟨u, rfl, hu⟩
      cases hou : u.offset <;> simp_all [Timestamp.same]
    · rintro rfl
      exact ⟨t, rfl, by simp [Timestamp.same, ho]⟩
  | some o =>
    have hkey : (timestamp t).key = .instant t.utcSeconds t.micro := by simp [key, ho]
    rw [hkey]
    constructor
    · rintro ⟨u, rfl, hu⟩
      cases hou : u.offset <;> simp_all [Timestamp.same, key]
    · intro h
      obtain ⟨u, p, rfl, hou, hs, hm⟩ := exists_of_key_eq_instant h.symm
      exact ⟨u, rfl, by simp [Timestamp.same, ho, hou, hs, hm]⟩

lemma same_iff_of_producer {i : Nat} {name : Option String} {yields : List Value} {b : Value} :
    (producer i name yields).same b = true ↔ (producer i name yields).key = b.key := by
  cases b with
  | timestamp t => cases ho : t.offset <;> simp [same, matches?, isOccurrence, equal?, key, ho]
  | float x => cases hx : x.exactValue? <;> simp [same, matches?, isOccurrence, equal?, key, hx]
  | decimal x => cases hx : x.exactValue? <;> simp [same, matches?, isOccurrence, equal?, key, hx]
  | _ => simp [same, matches?, isOccurrence, equal?, key]

/-! ## The comparison of all keys -/

lemma exists_of_key_eq_tuple {a : Value} {keys : List Key} (h : a.key = .tuple keys) :
    ∃ items, a = tuple items ∧ keyOfItems items = keys := by
  cases a with
  | timestamp t => cases ho : t.offset <;> simp_all [key]
  | float x => cases hx : x.exactValue? <;> simp_all [key]
  | decimal x => cases hx : x.exactValue? <;> simp_all [key]
  | _ => simp_all [key]

lemma tuple_same_iff {xs : List Value} {b : Value} :
    (tuple xs).same b = true ↔ ∃ ys, b = tuple ys ∧ equalItems? xs ys = some true := by
  cases b <;> simp [same, matches?, isOccurrence, equal?]

lemma equalItems?_cons {x y : Value} {xs ys : List Value} :
    equalItems? (x :: xs) (y :: ys) = some true ↔
      x.same y = true ∧ equalItems? xs ys = some true := by
  rw [equalItems?, same, matches?, beq_iff_eq]
  split <;> simp_all

mutual

/-- Two keys are the same exactly when they leave the same. -/
lemma same_iff : ∀ {a b : Value}, a.canBeKey = true → b.canBeKey = true →
    (a.same b = true ↔ a.key = b.key)
  | bool _, _, ha, hb => same_iff_of_isNumeric rfl ha hb rfl
  | int _, _, ha, hb => same_iff_of_isNumeric rfl ha hb rfl
  | float _, _, ha, hb => same_iff_of_isNumeric rfl ha hb rfl
  | decimal _, _, ha, hb => same_iff_of_isNumeric rfl ha hb rfl
  | null, _, _, _ => same_iff_of_isAtom rfl
  | text _, _, _, _ => same_iff_of_isAtom rfl
  | bytes _, _, _, _ => same_iff_of_isAtom rfl
  | date _, _, _, _ => same_iff_of_isAtom rfl
  | type _, _, _, _ => same_iff_of_isAtom rfl
  | kind _, _, _, _ => same_iff_of_isAtom rfl
  | operator _, _, _, _ => same_iff_of_isAtom rfl
  | pattern _, _, _, _ => same_iff_of_isAtom rfl
  | outcome _ _, _, _, _ => same_iff_of_isAtom rfl
  | timestamp _, _, _, _ => same_iff_of_timestamp
  | producer _ _ _, _, _, _ => same_iff_of_producer
  | tuple xs, b, ha, hb => by
    rw [tuple_same_iff]
    constructor
    · rintro ⟨ys, rfl, h⟩
      rw [key, key, (equalItems?_iff ha hb).1 h]
    · intro h
      obtain ⟨ys, rfl, hys⟩ := exists_of_key_eq_tuple h.symm
      exact ⟨ys, rfl, (equalItems?_iff ha hb).2 hys.symm⟩
  | list _, _, ha, _ => by simp [canBeKey] at ha
  | set _, _, ha, _ => by simp [canBeKey] at ha
  | map _, _, ha, _ => by simp [canBeKey] at ha

lemma equalItems?_iff : ∀ {xs ys : List Value}, allCanBeKey xs = true → allCanBeKey ys = true →
    (equalItems? xs ys = some true ↔ keyOfItems xs = keyOfItems ys)
  | [], [], _, _ => by simp [equalItems?]
  | [], _ :: _, _, _ => by simp [equalItems?, keyOfItems]
  | _ :: _, [], _, _ => by simp [equalItems?, keyOfItems]
  | x :: xs, y :: ys, hx, hy => by
    rw [allCanBeKey, Bool.and_eq_true] at hx hy
    rw [equalItems?_cons, same_iff hx.1 hy.1, equalItems?_iff hx.2 hy.2, keyOfItems, keyOfItems,
      List.cons.injEq]

end

/-! ## An equivalence -/

lemma same_refl {a : Value} (ha : a.canBeKey = true) : a.same a = true := (same_iff ha ha).2 rfl

lemma same_symm {a b : Value} (ha : a.canBeKey = true) (hb : b.canBeKey = true) :
    a.same b = b.same a := by
  rw [Bool.eq_iff_iff, same_iff ha hb, same_iff hb ha, eq_comm]

lemma same_trans {a b c : Value} (ha : a.canBeKey = true) (hb : b.canBeKey = true)
    (hc : c.canBeKey = true) (hab : a.same b = true) (hbc : b.same c = true) :
    a.same c = true :=
  (same_iff ha hc).2 (((same_iff ha hb).1 hab).trans ((same_iff hb hc).1 hbc))

@[simp] lemma same_text_iff {s : String} {v : Value} : (text s).same v = true ↔ text s = v :=
  same_iff_eq_of_isAtom rfl

lemma eq_text_of_same {v : Value} {s : String} (h : v.same (text s) = true) : v = text s := by
  cases v <;> simp_all [same, matches?, isOccurrence, equal?, equalNumbers?, isNumeric]

end Value
end DocTable
