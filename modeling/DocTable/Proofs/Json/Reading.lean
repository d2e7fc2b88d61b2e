/-
# What is found in JSON text

Whatever the text, a value that is read from it is built from nothing, truth values, integers,
floats and texts by lists and by mappings with names. No integer in it has too many digits, and lists
and objects are nested no deeper than there was room.
-/
import DocTable.Proofs.Json.Form
import Mathlib.Data.List.TakeWhile

namespace DocTable
namespace Json

open Value (Readable)

/-- A value that JSON text can spell. -/
inductive Plain : Value → Prop
  | null : Plain .null
  | bool (b : Bool) : Plain (.bool b)
  | int (n : Int) : Plain (.int n)
  | float (x : Binary64) : Plain (.float x)
  | text (s : String) : Plain (.text s)
  | list {items : List Value} (h : ∀ v ∈ items, Plain v) : Plain (.list items)
  | map {entries : Entries} (hnamed : entries.Named) (h : ∀ e ∈ entries, Plain e.2) :
      Plain (.map entries)

/-- A value that is found in JSON text where lists and objects may be nested `room` deep. -/
structure Found (room : Nat) (v : Value) : Prop where
  plain : Plain v
  readable : v.Readable room

lemma found_list {room : Nat} {items : List Value} (h : ∀ v ∈ items, Found room v) :
    Found (room + 1) (.list items) :=
  ⟨.list fun v hv => (h v hv).plain, Value.readable_list_iff.2 fun v hv => (h v hv).readable⟩

/-- An object gives the mapping that its members leave, in which the last one of a name counts. -/
lemma found_map {room : Nat} {members : Entries} (hnames : ∀ m ∈ members, ∃ name, m.1 = .text name)
    (h : ∀ m ∈ members, Found room m.2) :
    Found (room + 1) (.map (Entries.ofAssignments members)) := by
  have hvalues := Entries.forall_mem_ofAssignments h
  exact ⟨.map (Entries.named_ofAssignments hnames) fun e he => (hvalues e he).plain,
    Value.readable_map_iff.2 fun e he => (hvalues e he).readable⟩

/-! ## Scalars -/

lemma ofDigits_lt {digits : List Nat} (h : ∀ d ∈ digits, d < 10) (n : Nat) :
    digits.foldl (fun n d => 10 * n + d) n < (n + 1) * 10 ^ digits.length := by
  induction digits generalizing n with
  | nil => simp
  | cons d ds ih =>
    obtain ⟨hd, hds⟩ := List.forall_mem_cons.1 h
    calc ds.foldl (fun n d => 10 * n + d) (10 * n + d)
        < (10 * n + d + 1) * 10 ^ ds.length := ih hds _
      _ ≤ ((n + 1) * 10) * 10 ^ ds.length := Nat.mul_le_mul_right _ (by omega)
      _ = (n + 1) * 10 ^ (d :: ds).length := by rw [List.length_cons, Nat.pow_succ', Nat.mul_assoc]

lemma digitsValue_lt {digits : List Char} (h : ∀ c ∈ digits, c.isDigit) :
    digitsValue digits < 10 ^ digits.length := by
  have hdigits : ∀ d ∈ digits.map fun c => c.toNat - '0'.toNat, d < 10 := by
    refine List.forall_mem_map.2 fun c hc => ?_
    have hc := h c hc
    simp only [Char.isDigit, Bool.and_eq_true, decide_eq_true_eq, ge_iff_le,
      UInt32.le_iff_toNat_le] at hc
    have hnine : c.toNat ≤ 57 := hc.2
    have hzero : '0'.toNat = 48 := rfl
    omega
  have hlt := ofDigits_lt hdigits 0
  rwa [Nat.zero_add, Nat.one_mul, List.length_map] at hlt

lemma isDigit_of_readWhole {text whole rest : List Char} (h : readWhole text = some (whole, rest)) :
    ∀ c ∈ whole, c.isDigit := by
  rw [readWhole.eq_def] at h
  split at h
  · cases h
    simp
  · split_ifs at h with hc
    cases h
    exact List.forall_mem_cons.2 ⟨hc, fun d hd => List.mem_takeWhile_imp hd⟩
  · cases h

lemma found_int {room : Nat} {digits : List Char} (hdigits : ∀ c ∈ digits, c.isDigit)
    (hcount : digits.length ≤ Number.digitLimit) {n : Int}
    (hn : n.natAbs = digitsValue digits) : Found room (.int n) := by
  have hlt : n.natAbs < 10 ^ digits.length := hn ▸ digitsValue_lt hdigits
  exact ⟨.int n, Value.readable_leaf rfl (Number.isTooLong_eq_false_of_lt _ hlt hcount)⟩

/-- A number that is read is an integer of not too many digits or a float. -/
lemma found_of_readMagnitude {room : Nat} {negative : Bool} {text rest : List Char} {v : Value}
    (h : readMagnitude negative text = .ok (v, rest)) : Found room v := by
  rw [readMagnitude] at h
  split at h
  · cases h
  · rename_i whole _ hwhole
    dsimp only at h
    split_ifs at h with _ hlong
    · cases h
      exact found_int (isDigit_of_readWhole hwhole) (Nat.not_lt.1 hlong) (Int.natAbs_neg _)
    · cases h
      exact found_int (isDigit_of_readWhole hwhole) (Nat.not_lt.1 hlong) rfl
    · cases h
      exact ⟨.float _, Value.readable_leaf rfl rfl⟩

lemma found_of_readWord {room : Nat} {text rest : List Char} {v : Value}
    (h : readWord text = some (v, rest)) : Found room v := by
  obtain ⟨⟨word, value⟩, hmem, hword⟩ := List.exists_of_findSome?_eq_some h
  obtain ⟨_, -, heq⟩ := Option.map_eq_some_iff.1 hword
  obtain rfl : value = v := congrArg Prod.fst heq
  simp only [words, List.mem_cons, Prod.mk.injEq, List.not_mem_nil, or_false] at hmem
  rcases hmem with ⟨-, rfl⟩ | ⟨-, rfl⟩ | ⟨-, rfl⟩ | ⟨-, rfl⟩ | ⟨-, rfl⟩ | ⟨-, rfl⟩
  · exact ⟨.null, Value.readable_leaf rfl rfl⟩
  · exact ⟨.bool _, Value.readable_leaf rfl rfl⟩
  · exact ⟨.bool _, Value.readable_leaf rfl rfl⟩
  all_goals exact ⟨.float _, Value.readable_leaf rfl rfl⟩

lemma found_of_readScalar {room : Nat} {text rest : List Char} {v : Value}
    (h : readScalar text = .ok (v, rest)) : Found room v := by
  rw [readScalar.eq_def] at h
  split at h
  · obtain ⟨⟨s, _⟩, -, heq⟩ := map_eq_ok_iff.1 h
    cases heq
    exact ⟨.text _, Value.readable_leaf rfl rfl⟩
  · split at h
    · rename_i hword
      cases h
      exact found_of_readWord hword
    · split at h
      · exact found_of_readMagnitude h
      · exact found_of_readMagnitude h

/-! ## Values -/

mutual

/-- What is read from the start of a text is found there. -/
lemma found_of_readValue : ∀ {fuel room : Nat} {text rest : List Char} {v : Value},
    readValue fuel room text = .ok (v, rest) → Found room v
  | 0, _, _, _, _, h => by cases h
  | fuel + 1, room, text, rest, v, h => by
    rw [readValue.eq_def] at h
    split at h
    · cases h
    · cases h
    · cases h
    · split at h
      · cases h
        exact found_list (by simp)
      · obtain ⟨⟨items, _⟩, hitems, heq⟩ := map_eq_ok_iff.1 h
        cases heq
        exact found_list (found_of_readItems hitems)
    · split at h
      · cases h
        exact ⟨.map ⟨by simp, by simp [Entries.keys]⟩ (by simp), Value.readable_map_iff.2 (by simp)⟩
      · obtain ⟨⟨members, _⟩, hmembers, heq⟩ := map_eq_ok_iff.1 h
        cases heq
        have hfound := found_of_readMembers hmembers
        exact found_map (fun m hm => (hfound m hm).1) fun m hm => (hfound m hm).2
    · exact found_of_readScalar h

lemma found_of_readItems : ∀ {fuel room : Nat} {text rest : List Char} {items : List Value},
    readItems fuel room text = .ok (items, rest) → ∀ v ∈ items, Found room v
  | 0, _, _, _, _, h => by cases h
  | fuel + 1, room, text, rest, items, h => by
    rw [readItems] at h
    obtain ⟨⟨item, after⟩, hitem, h⟩ := bind_eq_ok_iff.1 h
    dsimp only at h
    split at h
    · cases h
      exact List.forall_mem_singleton.2 (found_of_readValue hitem)
    · obtain ⟨⟨more, _⟩, hmore, heq⟩ := bind_eq_ok_iff.1 h
      cases heq
      exact List.forall_mem_cons.2 ⟨found_of_readValue hitem, found_of_readItems hmore⟩
    · cases h

lemma found_of_readMembers : ∀ {fuel room : Nat} {text rest : List Char} {members : Entries},
    readMembers fuel room text = .ok (members, rest) →
    ∀ m ∈ members, (∃ name, m.1 = .text name) ∧ Found room m.2
  | 0, _, _, _, _, h => by cases h
  | fuel + 1, room, text, rest, members, h => by
    rw [readMembers.eq_def] at h
    split at h
    · cases h
    · obtain ⟨⟨name, afterName⟩, -, h⟩ := bind_eq_ok_iff.1 h
      dsimp only at h
      split at h
      · obtain ⟨⟨value, afterValue⟩, hvalue, h⟩ := bind_eq_ok_iff.1 h
        dsimp only at h
        split at h
        · cases h
          exact List.forall_mem_singleton.2 ⟨⟨name, rfl⟩, found_of_readValue hvalue⟩
        · obtain ⟨⟨more, _⟩, hmore, heq⟩ := bind_eq_ok_iff.1 h
          cases heq
          exact List.forall_mem_cons.2
            ⟨⟨⟨name, rfl⟩, found_of_readValue hvalue⟩, found_of_readMembers hmore⟩
        · cases h
      · cases h
    · cases h

end

/-- What is read from a whole text is found in it. -/
lemma found_of_read {room : Nat} {text : String} {v : Value} (h : read room text = .ok v) :
    Found room v := by
  rw [read] at h
  obtain ⟨⟨value, rest⟩, hvalue, h⟩ := bind_eq_ok_iff.1 h
  dsimp only at h
  split_ifs at h
  cases h
  exact found_of_readValue hvalue

/-- A text that starts like a list or an object is read as one. -/
lemma isStructure_of_readValue {fuel room : Nat} {first : Char} {text rest : List Char} {v : Value}
    (hfirst : first = '[' ∨ first = '\x7b')
    (h : readValue fuel room (first :: text) = .ok (v, rest)) : v.isStructure = true := by
  rcases fuel with - | fuel
  · cases h
  rcases room with - | room
  · rcases hfirst with rfl | rfl <;> cases h
  rcases hfirst with rfl | rfl
  all_goals
    rw [readValue] at h
    split at h
    · cases h
      rfl
    · obtain ⟨_, -, heq⟩ := map_eq_ok_iff.1 h
      cases heq
      rfl

lemma isStructure_of_read {room : Nat} {text : String} {v : Value} (h : read room text = .ok v)
    {first : Char} (hfirst : first = '[' ∨ first = '\x7b')
    (hhead : text.toList.head? = some first) : v.isStructure = true := by
  obtain ⟨rest, htext⟩ := List.head?_eq_some_iff.1 hhead
  have hskip : skipSpaces text.toList = first :: rest := by
    rcases hfirst with rfl | rfl <;> rw [htext] <;> rfl
  rw [read, hskip] at h
  obtain ⟨⟨value, after⟩, hvalue, h⟩ := bind_eq_ok_iff.1 h
  dsimp only at h
  split_ifs at h
  cases h
  exact isStructure_of_readValue hfirst hvalue

end Json
end DocTable
