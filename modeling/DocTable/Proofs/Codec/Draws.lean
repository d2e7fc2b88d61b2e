/-
# One draw for each gap

A field may have something to call for its default. It is called once for each document that has a
gap there: a document in which the mapping above the field is present and does not hold it. So of a
sequence of documents that are encoded one after the other, the first one with a gap gets what the
first call yields, the next one with a gap what the second call yields, and so on. A document that
holds the field keeps what it holds, and nothing is called for it.

While one document is filled in, the default of no other field may be the same producer. Then each
step but the one for the field itself leaves the number of draws as it is.
-/
import DocTable.Codec.Encode
import DocTable.Proofs.Codec.Extension

namespace DocTable

open Entries (ProperKeys)

/-! ## Places in documents and in declarations -/

namespace Entries

/-- Whether there is a gap: the mapping above is present, and it does not hold the name. -/
def lacks (above : List Value) (name : Value) (entries : Entries) : Bool :=
  match (Value.map entries).at? above with
  | some (.map inner) => !has name inner
  | _ => false

end Entries

namespace Fields

/-- A field is declared under a name, below the fields that stand above it. -/
inductive Declares : Fields → List Value → Value → Descriptor → Prop
  | here {fields : Fields} {name : Value} {d : Descriptor} (h : (name, d) ∈ fields) :
      Declares fields [] name d
  | inside {fields sub : Fields} {key name : Value} {parent d : Descriptor} {above : List Value}
      (h : (key, parent) ∈ fields) (hnested : parent.nested = some sub)
      (hbelow : Declares sub above name d) : Declares fields (key :: above) name d

end Fields

/-! ## Defaults that are called -/

/-- The producer that a value is, if it is one. A type is called as well, but it yields the same
whatever has been drawn. -/
def Value.producerId? : Value → Option Nat
  | .producer id _ _ => some id
  | _ => none

/-- What something to call yields when it is called for the time with a given number, counted from
zero. -/
def Value.yieldAt? : Value → Nat → Option Value
  | .producer _ _ yields, number => yields[min number (yields.length - 1)]?
  | .type marker, _ => (Codec.emptyOf marker).toOption
  | _, _ => none

/-- The field at a place has something to call for its default, and no other field has the same
producer for its default. -/
structure Fields.OwnsDefault (fields : Fields) (above : List Value) (name : Value) (d : Descriptor)
    (default : Value) : Prop where
  declared : fields.Declares above name d
  default_eq : d.default = some default
  callable : default.isCallable = true
  own : ∀ {others : List Value} {other v : Value} {e : Descriptor},
    fields.Declares others other e → e.default = some v → v.producerId? ≠ none →
      v.producerId? = default.producerId? → others = above ∧ other = name

namespace Codec

/-- Something to call has been called a number of times, as far as that is kept. -/
def Draws.Spent (draws : Draws) (default : Value) (number : Nat) : Prop :=
  ∀ id, default.producerId? = some id → draws.count id = number

/-- A default that does not draw from the producer that another one is. -/
def KeepsDraws (default v : Value) : Prop :=
  v.producerId? ≠ none → v.producerId? ≠ default.producerId?

variable {default : Value} {draws drawn : Draws} {number : Nat}

/-! ## One call -/

lemma Draws.Spent.resolveDefault {v : Value} (h : draws.Spent default number)
    (hkeeps : KeepsDraws default v) : (resolveDefault draws v).2.Spent default number := by
  intro id hid
  cases v with
  | producer other called yields =>
    have hne : id ≠ other := by
      rintro rfl
      exact hkeeps (Option.some_ne_none _) hid.symm
    show (if id = other then draws.count id + 1 else draws.count id) = number
    rw [if_neg hne]
    exact h id hid
  | _ => exact h id hid

lemma filled_resolveDefault (v : Value) : (resolveDefault draws v).2.filled = draws.filled := by
  cases v <;> rfl

/-- A call gives what is yielded next. -/
lemma yieldAt?_of_resolveDefault {value : Value} (hcallable : default.isCallable = true)
    (hspent : draws.Spent default number) (hfilled : draws.filled = [])
    (h : (resolveDefault draws default).1 = .ok value) :
    default.yieldAt? number = some value ∧
      (resolveDefault draws default).2.Spent default (number + 1) := by
  cases default with
  | type marker =>
    have hempty : emptyOf marker = .ok value := h
    refine ⟨?_, ?_⟩
    · show (emptyOf marker).toOption = some value
      rw [hempty]
      rfl
    · intro id hid
      cases hid
  | producer id called yields =>
    have hcount : draws.count id = number := hspent id rfl
    have hyielded : draws.yielded id yields = .ok value := h
    have hturn : draws.turn id yields = min number (yields.length - 1) := by
      rw [Draws.turn, hcount]
    refine ⟨?_, ?_⟩
    · rw [Draws.yielded, hturn, hfilled] at hyielded
      show yields[min number (yields.length - 1)]? = some value
      cases hget : yields[min number (yields.length - 1)]? with
      | none => simp [hget] at hyielded
      | some v => simpa [hget] using hyielded
    · rintro other hother
      obtain rfl : id = other := Option.some.inj hother
      show (if id = id then draws.count id + 1 else draws.count id) = number + 1
      rw [if_pos rfl, hcount]
  | _ => cases hcallable

/-! ## Fields that leave the number of draws -/

section Keeping

variable {fields : Fields} {entries after : Entries}

lemma Fills.filled_eq (h : Fills fields entries draws after drawn) :
    drawn.filled = draws.filled := by
  induction h with
  | nil => rfl
  | held _ _ _ ih => exact ih
  | undefaulted _ _ _ ih => exact ih
  | supplied _ _ _ _ ih => rw [ih, filled_resolveDefault]
  | entered _ _ _ _ ihBelow ih => rw [ih, ihBelow]

/-- Fields whose defaults do not draw from a producer leave the number of its draws. -/
lemma Fills.spent (h : Fills fields entries draws after drawn)
    (hkeeps : fields.DefaultsSatisfy (KeepsDraws default)) (hspent : draws.Spent default number) :
    drawn.Spent default number := by
  induction h generalizing number with
  | nil => exact hspent
  | held _ _ _ ih => exact ih hkeeps.tail hspent
  | undefaulted _ _ _ ih => exact ih hkeeps.tail hspent
  | supplied _ hdefault _ _ ih =>
    have hfirst := hspent.resolveDefault (hkeeps.head.own hdefault)
    exact ih hkeeps.tail hfirst
  | entered _ hnested _ _ ihBelow ih =>
    have hbelow := ihBelow (hkeeps.head.fields hnested) hspent
    exact ih hkeeps.tail hbelow

end Keeping

end Codec

/-! ## The fields beside the one with the producer -/

section Beside

variable {p : Value → Prop} {d parent : Descriptor} {fields sub before behind : Fields}
  {key name default : Value} {above : List Value}

/-- What holds of the default of every declared field holds of all defaults. -/
lemma Descriptor.Proper.defaultsSatisfy (hd : d.Proper) (hown : ∀ v, d.default = some v → p v)
    (hbelow : ∀ sub : Fields, d.nested = some sub → ∀ others other e v,
      sub.Declares others other e → e.default = some v → p v) : d.DefaultsSatisfy p := by
  induction hd with
  | plain kind default =>
    refine .mk hown ?_
    rintro sub ⟨⟩
  | @nested kind default fields names descriptors ih =>
    refine .mk hown ?_
    rintro _ ⟨⟩ f hf
    refine ih f hf ?_ ?_
    · intro v hv
      exact hbelow fields rfl [] f.1 f.2 v (.here hf) hv
    · intro sub hsub others other e v hdeclares hv
      exact hbelow fields rfl (f.1 :: others) other e v (.inside hf hsub hdeclares) hv

lemma Fields.Proper.defaultsSatisfy (hfields : fields.Proper)
    (h : ∀ others other e v, fields.Declares others other e → e.default = some v → p v) :
    fields.DefaultsSatisfy p := by
  intro f hf
  refine (hfields.descriptors f hf).defaultsSatisfy ?_ ?_
  · intro v hv
    exact h [] f.1 f.2 v (.here hf) hv
  · intro sub hsub others other e v hdeclares hv
    exact h (f.1 :: others) other e v (.inside hf hsub hdeclares) hv

/-- The names around a field are others. -/
lemma Fields.Proper.not_same_of_mem (hfields : Fields.Proper (before ++ (key, parent) :: behind))
    {f : Value × Descriptor} (hf : f ∈ before ++ behind) : f.1.same key = false := by
  have hsplit : Fields.names (before ++ (key, parent) :: behind) =
      Fields.names before ++ key :: Fields.names behind := List.map_append
  have hkeys : ∀ k ∈ Fields.names (before ++ (key, parent) :: behind), k.canBeKey = true :=
    hfields.names.canBeKey
  have hdistinct := hfields.names.distinct
  rw [hsplit, List.pairwise_append, List.pairwise_cons] at hdistinct
  rcases List.mem_append.1 hf with hbefore | hbehind
  · exact hdistinct.2.2 f.1 (List.mem_map_of_mem hbefore) key List.mem_cons_self
  · have hafter : key.same f.1 = false := hdistinct.2.1.1 f.1 (List.mem_map_of_mem hbehind)
    have hkey : key.canBeKey = true := hkeys key (by simp [hsplit])
    have hname : f.1.canBeKey = true := by
      refine hkeys f.1 (List.mem_map_of_mem (List.mem_append_right _ ?_))
      exact List.mem_cons_of_mem _ hbehind
    rw [Value.same_symm hname hkey]
    exact hafter

lemma Fields.Proper.sublist (hfields : fields.Proper) (hsub : sub.Sublist fields) : sub.Proper :=
  ⟨hfields.names.sublist (hsub.map Prod.fst), fun f hf => hfields.descriptors f (hsub.subset hf)⟩

namespace Fields

lemma Declares.mono {d : Descriptor} (h : sub.Declares above name d) (hsub : sub ⊆ fields) :
    fields.Declares above name d := by
  cases h with
  | here h => exact .here (hsub h)
  | inside h hnested hbelow => exact .inside (hsub h) hnested hbelow

/-- The first name on the way to a declared field is the name of one of the fields. -/
lemma Declares.exists_head (h : fields.Declares above name d) :
    ∃ f ∈ fields, (above ++ [name]).head? = some f.1 := by
  cases h with
  | here h => exact ⟨_, h, rfl⟩
  | inside h _ _ => exact ⟨_, h, rfl⟩

namespace OwnsDefault

lemma inside (h : fields.OwnsDefault (key :: above) name d default) (hmem : (key, parent) ∈ fields)
    (hnested : parent.nested = some sub) (hbelow : sub.Declares above name d) :
    sub.OwnsDefault above name d default := by
  refine ⟨hbelow, h.default_eq, h.callable, ?_⟩
  intro others other v e hdeclares hv hid heq
  obtain ⟨hothers, hother⟩ := h.own (.inside hmem hnested hdeclares) hv hid heq
  exact ⟨(List.cons.inj hothers).2, hother⟩

/-- The fields around the first one on the way do not draw from the producer. -/
lemma keeps_around (h : OwnsDefault (before ++ (key, parent) :: behind) above name d default)
    (hfields : Fields.Proper (before ++ (key, parent) :: behind))
    (hhead : (above ++ [name]).head? = some key) :
    Fields.DefaultsSatisfy (Codec.KeepsDraws default) (before ++ behind) := by
  have hsub : (before ++ behind).Sublist (before ++ (key, parent) :: behind) :=
    List.Sublist.append_left (List.sublist_cons_self _ _) _
  refine (hfields.sublist hsub).defaultsSatisfy ?_
  intro others other e v hdeclares hv hid heq
  obtain ⟨f, hf, hfirst⟩ := hdeclares.exists_head
  obtain ⟨rfl, rfl⟩ := h.own (hdeclares.mono hsub.subset) hv hid heq
  -- the first name on the way is not the name of a field around it
  have hkey : f.1 = key := Option.some.inj (hfirst.symm.trans hhead)
  have hname : f.1.canBeKey = true :=
    (hfields.sublist hsub).names.canBeKey _ (List.mem_map_of_mem hf)
  have hother := hfields.not_same_of_mem hf
  rw [← hkey, Value.same_refl hname] at hother
  cases hother

/-- The sub-fields of the field with the producer do not draw from it. -/
lemma keeps_below (h : fields.OwnsDefault [] name d default) (hfields : fields.Proper)
    (hmem : (name, d) ∈ fields) (hnested : d.nested = some sub) :
    sub.DefaultsSatisfy (Codec.KeepsDraws default) := by
  have hsub : sub.Proper := (hfields.descriptors _ hmem).fields hnested
  refine hsub.defaultsSatisfy ?_
  intro others other e v hdeclares hv hid heq
  obtain ⟨hothers, -⟩ := h.own (.inside hmem hnested hdeclares) hv hid heq
  cases hothers

/-- A field above the one with the producer does not draw from it. -/
lemma keeps_above (h : fields.OwnsDefault (key :: above) name d default)
    (hmem : (key, parent) ∈ fields) {v : Value} (hv : parent.default = some v) :
    Codec.KeepsDraws default v := by
  intro hid heq
  obtain ⟨hothers, -⟩ := h.own (.here hmem) hv hid heq
  cases hothers

end OwnsDefault

end Fields

end Beside

/-! ## One document -/

namespace Entries

variable {name key : Value} {above : List Value} {entries inner : Entries}

lemma lacks_nil : entries.lacks [] name = !has name entries := rfl

lemma lacks_cons_of_map (hget : get? key entries = some (.map inner)) :
    entries.lacks (key :: above) name = inner.lacks above name := by
  have hat : (Value.map entries).at? (key :: above) = (Value.map inner).at? above := by
    rw [Value.at?, hget, Option.bind_some]
  rw [lacks, lacks, hat]

lemma lacks_cons_of_leaf (hleaf : ∀ inner, get? key entries ≠ some (.map inner)) :
    entries.lacks (key :: above) name = false := by
  rw [lacks, Value.at?]
  cases hget : get? key entries with
  | none => rfl
  | some v =>
    cases v with
    | map inner => exact absurd hget (hleaf inner)
    | _ => cases above <;> rfl

end Entries

namespace Codec

variable {default key name : Value} {d parent : Descriptor} {fields before behind : Fields}
  {above : List Value} {entries after : Entries} {draws drawn : Draws} {number : Nat}

/-- The fields around one of them change neither what is held under its name nor how often a
producer has been drawn from that none of them has. -/
lemma Fills.around (h : Fills (before ++ (key, parent) :: behind) entries draws after drawn)
    (hfields : Fields.Proper (before ++ (key, parent) :: behind)) (hkeys : ProperKeys entries.keys)
    (hkeeps : Fields.DefaultsSatisfy (KeepsDraws default) (before ++ behind))
    (hspent : draws.Spent default number) (hfilled : draws.filled = []) :
    ∃ middle next between further, Fills [(key, parent)] middle between next further ∧
      Entries.get? key middle = Entries.get? key entries ∧
      between.Spent default number ∧ between.filled = [] ∧
      Entries.get? key after = Entries.get? key next ∧
      ∀ n, further.Spent default n → drawn.Spent default n := by
  obtain ⟨middle, between, hbefore, hrest⟩ := fills_append_iff.1 h
  have hone : (key, parent) :: behind = [(key, parent)] ++ behind := rfl
  rw [hone] at hrest
  obtain ⟨next, further, hfirst, hbehind⟩ := fills_append_iff.1 hrest
  have hname : ∀ f ∈ before ++ (key, parent) :: behind, f.1.canBeKey = true := fun f hf =>
    hfields.names.canBeKey _ (List.mem_map_of_mem hf)
  have hkey : key.canBeKey = true := hname (key, parent) (by simp)
  have hbeforeNames : ∀ f ∈ before, f.1.canBeKey = true := fun f hf => hname f (by simp [hf])
  have hbehindNames : ∀ f ∈ behind, f.1.canBeKey = true := fun f hf => hname f (by simp [hf])
  have hmiddleKeys : ProperKeys middle.keys := hbefore.filled.properKeys hbeforeNames hkeys
  have hnextKeys : ProperKeys next.keys :=
    hfirst.filled.properKeys (by simpa using hkey) hmiddleKeys
  refine ⟨middle, next, between, further, hfirst, ?_, ?_, ?_, ?_, ?_⟩
  · exact hbefore.filled.get?_eq hbeforeNames hkeys hkey fun f hf =>
      hfields.not_same_of_mem (List.mem_append_left _ hf)
  · exact hbefore.spent (fun f hf => hkeeps f (List.mem_append_left _ hf)) hspent
  · rw [hbefore.filled_eq, hfilled]
  · exact hbehind.filled.get?_eq hbehindNames hnextKeys hkey fun f hf =>
      hfields.not_same_of_mem (List.mem_append_right _ hf)
  · intro n hn
    exact hbehind.spent (fun f hf => hkeeps f (List.mem_append_right _ hf)) hn

/-- What filling in one document does about a field with a producer of its own: at a gap there is
one more draw, and the field gets what it yields; otherwise nothing is drawn. -/
structure Serves (default : Value) (above : List Value) (name : Value) (entries after : Entries)
    (drawn : Draws) (number : Nat) : Prop where
  gap : entries.lacks above name = true → drawn.Spent default (number + 1) ∧
    ∃ v, default.yieldAt? number = some v ∧ (Value.map after).at? (above ++ [name]) = some v
  noGap : entries.lacks above name = false → drawn.Spent default number

/-- The field is one of those that are filled in first. -/
lemma Fills.serves_here (h : Fills fields entries draws after drawn) (hfields : fields.Proper)
    (hown : fields.OwnsDefault [] name d default) (hkeys : ProperKeys entries.keys)
    (hspent : draws.Spent default number) (hfilled : draws.filled = []) :
    Serves default [] name entries after drawn number := by
  obtain ⟨hmem⟩ | _ := hown.declared
  obtain ⟨before, behind, rfl⟩ := List.append_of_mem hmem
  have hname : name.canBeKey = true := hfields.names.canBeKey _ (List.mem_map_of_mem hmem)
  have hkeeps := hown.keeps_around hfields rfl
  obtain ⟨middle, next, between, further, hfirst, hget, hbetween, hnone, hafter, hdrawn⟩ :=
    h.around hfields hkeys hkeeps hspent hfilled
  cases hfirst with
  | held hheld _ rest =>
    cases rest
    have hholds : Entries.has name entries = true := by
      rw [Entries.has, ← hget, hheld]
      rfl
    refine ⟨fun hlacks => ?_, fun _ => hdrawn _ hbetween⟩
    rw [Entries.lacks_nil, hholds] at hlacks
    cases hlacks
  | undefaulted _ hdefault _ =>
    rw [hown.default_eq] at hdefault
    cases hdefault
  | @supplied _ _ value _ _ _ _ _ _ habsent hdefault hvalue rest =>
    cases rest
    obtain rfl : default = _ := Option.some.inj (hown.default_eq.symm.trans hdefault)
    have hholds : Entries.has name entries = false := by
      rw [Entries.has, ← hget, habsent]
      rfl
    obtain ⟨hyield, hspentNext⟩ := yieldAt?_of_resolveDefault hown.callable hbetween hnone hvalue
    refine ⟨fun _ => ⟨hdrawn _ hspentNext, value, hyield, ?_⟩, fun hlacks => ?_⟩
    · rw [Entries.get?_put hname] at hafter
      show (Value.map after).at? [name] = some value
      rw [Value.at?, hafter, Option.bind_some, Value.at?]
    · rw [Entries.lacks_nil, hholds] at hlacks
      cases hlacks
  | entered hheld hnested below rest =>
    cases rest
    have hholds : Entries.has name entries = true := by
      rw [Entries.has, ← hget, hheld]
      rfl
    have hbelow := below.spent (hown.keeps_below hfields hmem hnested) hbetween
    refine ⟨fun hlacks => ?_, fun _ => hdrawn _ hbelow⟩
    rw [Entries.lacks_nil, hholds] at hlacks
    cases hlacks

/-- Filling in one document draws for the field exactly at a gap. -/
lemma Fills.serves (h : Fills fields entries draws after drawn) (hfields : fields.Proper)
    (hown : fields.OwnsDefault above name d default) (hentries : (Value.map entries).Proper)
    (hspent : draws.Spent default number) (hfilled : draws.filled = []) :
    Serves default above name entries after drawn number := by
  induction above generalizing fields entries after draws drawn with
  | nil => exact h.serves_here hfields hown (Value.proper_map_iff.1 hentries).1 hspent hfilled
  | cons key above ih =>
    obtain _ | ⟨hmem, hnested, hbelow⟩ := hown.declared
    rename_i sub parent
    obtain ⟨before, behind, rfl⟩ := List.append_of_mem hmem
    have hkey : key.canBeKey = true := hfields.names.canBeKey _ (List.mem_map_of_mem hmem)
    have hkeeps := hown.keeps_around hfields rfl
    obtain ⟨middle, next, between, further, hfirst, hget, hbetween, hnone, hafter, hdrawn⟩ :=
      h.around hfields (Value.proper_map_iff.1 hentries).1 hkeeps hspent hfilled
    have hleaf : (∀ inner, Entries.get? key entries ≠ some (.map inner)) →
        further.Spent default number → Serves default (key :: above) name entries after drawn
          number := by
      intro hget hfurther
      refine ⟨fun hlacks => ?_, fun _ => hdrawn _ hfurther⟩
      rw [Entries.lacks_cons_of_leaf hget] at hlacks
      cases hlacks
    cases hfirst with
    | held hheld hstops rest =>
      cases rest
      refine hleaf (fun inner hinner => ?_) hbetween
      -- the field has sub-fields, so what is held cannot be a mapping
      rw [← hget, hheld] at hinner
      rcases hstops with hstops | hstops
      · rw [hnested] at hstops
        cases hstops
      · rw [Option.some.inj hinner] at hstops
        cases hstops
    | undefaulted habsent _ rest =>
      cases rest
      refine hleaf (fun inner hinner => ?_) hbetween
      rw [← hget, habsent] at hinner
      cases hinner
    | supplied habsent hdefault hvalue rest =>
      cases rest
      refine hleaf (fun inner hinner => ?_) ?_
      · rw [← hget, habsent] at hinner
        cases hinner
      · exact hbetween.resolveDefault (hown.keeps_above hmem hdefault)
    | @entered _ _ _ sub' _ inner filled _ _ _ _ hheld hnested' below rest =>
      cases rest
      obtain rfl : sub = sub' := Option.some.inj (hnested.symm.trans hnested')
      rw [hheld] at hget
      rw [Entries.get?_put hkey] at hafter
      have hsub : sub.Proper := (hfields.descriptors _ hmem).fields hnested
      have hinner : (Value.map inner).Proper := hentries.get? hget.symm
      obtain ⟨hgap, hnoGap⟩ :=
        ih below hsub (hown.inside hmem hnested hbelow) hinner hbetween hnone
      have hlacks : entries.lacks (key :: above) name = inner.lacks above name :=
        Entries.lacks_cons_of_map hget.symm
      refine ⟨fun hlacking => ?_, fun hlacking => ?_⟩
      · rw [hlacks] at hlacking
        obtain ⟨hfurther, v, hyield, hat⟩ := hgap hlacking
        refine ⟨hdrawn _ hfurther, v, hyield, ?_⟩
        rw [List.cons_append, Value.at?, hafter, Option.bind_some]
        exact hat
      · rw [hlacks] at hlacking
        exact hdrawn _ (hnoGap hlacking)

lemma Serves.spent {entries after : Entries} (h : Serves default above name entries after drawn
    number) : drawn.Spent default (number + [entries].countP fun es => es.lacks above name) := by
  rw [List.countP_singleton]
  cases hlacks : entries.lacks above name with
  | true => exact (h.gap hlacks).1
  | false => exact h.noGap hlacks

/-! ## What a document holds already -/

/-- What is found under a key is found anew when all values have changed and entries have been added
behind them. -/
lemma exists_get?_map_append {value : Value} (hget : Entries.get? key entries = some value)
    (new : Value × Value → Value) (added : Entries) :
    ∃ e ∈ entries, e.1.same key = true ∧ e.2 = value ∧
      Entries.get? key (entries.map (fun e => (e.1, new e)) ++ added) = some (new e) := by
  induction entries with
  | nil => cases hget
  | cons first rest ih =>
    rw [Entries.get?] at hget
    rw [List.map_cons, List.cons_append, Entries.get?]
    by_cases hsame : first.1.same key = true
    · rw [if_pos hsame] at hget
      rw [if_pos hsame]
      exact ⟨first, List.mem_cons_self, hsame, Option.some.inj hget, rfl⟩
    · rw [if_neg hsame] at hget
      rw [if_neg hsame]
      obtain ⟨e, he, hkey, hvalue, hfound⟩ := ih hget
      exact ⟨e, List.mem_cons_of_mem _ he, hkey, hvalue, hfound⟩

/-- What is held under the name of a declared field is only extended. -/
lemma Extends.get? {left value : Value} (h : Extends (some fields) (.map entries) left)
    (hfields : fields.Proper) (hentries : (Value.map entries).Proper) (hmem : (name, d) ∈ fields)
    (hget : Entries.get? name entries = some value) :
    ∃ after, left = .map after ∧ ∃ kept, Entries.get? name after = some kept ∧
      Extends d.nested value kept := by
  rcases h with h | @⟨_, _, added, new, kept, _⟩
  · rcases h with h | h <;> cases h
  obtain ⟨e, he, hsame, rfl, hfound⟩ := exists_get?_map_append hget new added
  have hname : name.canBeKey = true := hfields.names.canBeKey _ (List.mem_map_of_mem hmem)
  have hkeys : ProperKeys entries.keys := (Value.proper_map_iff.1 hentries).1
  have hkey : e.1.canBeKey = true := hkeys.canBeKey _ (List.mem_map_of_mem he)
  have hsub : fields.subFields e.1 = d.nested := by
    have hsame' : name.same e.1 = true := by rw [Value.same_symm hname hkey, hsame]
    rw [Fields.subFields, Fields.get?_of_mem hfields.names hkey hmem hsame', Option.bind_some]
  refine ⟨_, rfl, new e, hfound, ?_⟩
  rw [← hsub]
  exact kept e he

/-- What is held at the place of a declared field is only extended by the defaults of its
sub-fields. -/
lemma Extends.at? {left value : Value} (h : Extends (some fields) (.map entries) left)
    (hfields : fields.Proper) (hentries : (Value.map entries).Proper)
    (hdeclared : fields.Declares above name d)
    (hat : (Value.map entries).at? (above ++ [name]) = some value) :
    ∃ kept, left.at? (above ++ [name]) = some kept ∧ Extends d.nested value kept := by
  induction hdeclared generalizing entries left with
  | @here fields name d hmem =>
    have hget : Entries.get? name entries = some value := by
      rw [List.nil_append, Value.at?] at hat
      simpa [Value.at?, Option.bind_eq_some_iff] using hat
    obtain ⟨after, rfl, kept, hkept, hextends⟩ := h.get? hfields hentries hmem hget
    refine ⟨kept, ?_, hextends⟩
    rw [List.nil_append, Value.at?, hkept, Option.bind_some, Value.at?]
  | @inside fields sub key name parent d above hmem hnested hbelow ih =>
    rw [List.cons_append, Value.at?, Option.bind_eq_some_iff] at hat
    obtain ⟨held, hget, hheld⟩ := hat
    obtain ⟨after, rfl, kept, hkept, hextends⟩ := h.get? hfields hentries hmem hget
    -- what is held here holds something in turn, so it is a mapping
    obtain ⟨inner, rfl⟩ : ∃ inner, held = .map inner := by
      cases held with
      | map inner => exact ⟨inner, rfl⟩
      | _ => cases above <;> cases hheld
    rw [hnested] at hextends
    obtain ⟨below, hbelowAt, hbelowExtends⟩ :=
      ih hextends ((hfields.descriptors _ hmem).fields hnested) (hentries.get? hget) hheld
    refine ⟨below, ?_, hbelowExtends⟩
    rw [List.cons_append, Value.at?, hkept, Option.bind_some]
    exact hbelowAt

/-! ## A sequence of documents -/

/-- What an encoded document holds at a path: the document as it is left holds it there, and what is
stored under the first name is the stored form of what the document holds under that name. -/
inductive Encoding.Holds (encoding : Encoding) : List Value → Value → Prop
  | mk {after pairs : Entries} {top whole cell value : Value} {below : List Value}
      (document : encoding.document = .map after) (stored : encoding.pairs = .ok pairs)
      (held : Entries.get? top after = some whole) (inside : whole.at? below = some value)
      (encoded : encodeValue whole = .ok cell) (cell_eq : Entries.get? top pairs = some cell) :
      Encoding.Holds encoding (top :: below) value

lemma exists_cell {pairs : Entries} {top whole : Value} (h : encodeEntries entries = .ok pairs)
    (hget : Entries.get? top entries = some whole) :
    ∃ cell, encodeValue whole = .ok cell ∧ Entries.get? top pairs = some cell := by
  induction entries generalizing pairs with
  | nil => cases hget
  | cons e rest ih =>
    obtain ⟨key, value⟩ := e
    simp only [encodeEntries, bind_eq_ok_iff, pure_eq_ok, Except.ok.injEq] at h
    obtain ⟨first, hfirst, others, hothers, rfl⟩ := h
    rw [Entries.get?] at hget ⊢
    split_ifs at hget ⊢ with hkey
    · exact ⟨first, Option.some.inj hget ▸ hfirst, rfl⟩
    · exact ih hothers hget

/-- An encoded document stores what it holds. -/
lemma Encoding.Holds.of_at? {encoding : Encoding} {pairs : Entries} {path : List Value}
    {value : Value} (hdocument : encoding.document = .map after)
    (hpairs : encoding.pairs = .ok pairs) (hstored : encodeEntries after = .ok pairs)
    (hpath : path ≠ []) (hat : (Value.map after).at? path = some value) :
    encoding.Holds path value := by
  cases path with
  | nil => exact absurd rfl hpath
  | cons top below =>
    rw [Value.at?, Option.bind_eq_some_iff] at hat
    obtain ⟨whole, hget, hinside⟩ := hat
    obtain ⟨cell, hencoded, hcell⟩ := exists_cell hstored hget
    exact .mk hdocument hpairs hget hinside hencoded hcell

/-- An encoded document as a field with a producer of its own sees it, the producer having been
called a number of times before. -/
structure Encoding.DrawsOnce (encoding : Encoding) (default : Value) (above : List Value)
    (name : Value) (d : Descriptor) (entries : Entries) (number : Nat) : Prop where
  /-- There is one more call exactly if there is a gap. -/
  spent : encoding.draws.Spent default (number + [entries].countP fun es => es.lacks above name)
  /-- The document gets what the next call yields at a gap. -/
  gap : entries.lacks above name = true →
    ∃ value, default.yieldAt? number = some value ∧ encoding.Holds (above ++ [name]) value
  /-- What the document holds there already is kept, and only extended by its sub-fields. -/
  held : ∀ value, (Value.map entries).at? (above ++ [name]) = some value →
    ∃ kept, encoding.Holds (above ++ [name]) kept ∧ Extends d.nested value kept

section Sequence

variable (hfields : fields.Proper) (hown : fields.OwnsDefault above name d default)
include hfields hown

lemma drawsOnce_encodeDocument (hentries : (Value.map entries).Proper)
    (hspent : draws.Spent default number) (hfilled : draws.filled = []) {pairs : Entries}
    (hpairs : (encodeDocument fields (.map entries) draws).pairs = .ok pairs) :
    (encodeDocument fields (.map entries) draws).DrawsOnce default above name d entries number ∧
      (encodeDocument fields (.map entries) draws).draws.filled = [] := by
  have hfault : (fillFields fields (.map entries) draws.anew).fault = none := by
    cases hfault : (fillFields fields (.map entries) draws.anew).fault with
    | none => rfl
    | some fault => simp [encodeDocument, hfault] at hpairs
  obtain ⟨after, hdocument, hfills⟩ := fills_fillFields hfault
  have hstored : encodeEntries after = .ok pairs := by
    simpa [encodeDocument, hfault, hdocument, storedPairs, Value.entries] using hpairs
  -- what was lent to a sequence before has no part in filling in a mapping
  have hanew : draws.anew.Spent default number := hspent
  have hserves := hfills.serves hfields hown hentries hanew hfilled
  have hextends := hfills.filled.extends hfields (Value.proper_map_iff.1 hentries).1
    (.of_proper hentries)
  have hpath : above ++ [name] ≠ [] := by simp
  refine ⟨⟨hserves.spent, ?_, ?_⟩, ?_⟩
  · intro hlacks
    obtain ⟨-, value, hyield, hat⟩ := hserves.gap hlacks
    exact ⟨value, hyield, .of_at? hdocument hpairs hstored hpath hat⟩
  · intro value hat
    obtain ⟨kept, hkept, hvalue⟩ := hextends.at? hfields hentries hown.declared hat
    exact ⟨kept, .of_at? hdocument hpairs hstored hpath hkept, hvalue⟩
  · have hanewFilled : draws.anew.filled = [] := hfilled
    exact hfills.filled_eq.trans hanewFilled

/-- Each of the documents goes on with the draws that the ones before it have left. -/
lemma drawsOnce_encodeDocuments {documents : List Entries}
    (hdocuments : ∀ es ∈ documents, (Value.map es).Proper) (hspent : draws.Spent default number)
    (hfilled : draws.filled = []) {encodings : List Encoding}
    (h : encodeDocuments fields (documents.map .map) draws = .ok encodings) :
    encodings.length = documents.length ∧
      ∀ i es, documents[i]? = some es → ∃ encoding : Encoding, encodings[i]? = some encoding ∧
        encoding.DrawsOnce default above name d es
          (number + (documents.take i).countP fun es => es.lacks above name) := by
  induction documents generalizing draws number encodings with
  | nil =>
    cases h
    exact ⟨rfl, fun i es hes => by simp at hes⟩
  | cons first documents ih =>
    obtain ⟨hfirst, hrest⟩ := List.forall_mem_cons.1 hdocuments
    simp only [List.map_cons, encodeDocuments, bind_eq_ok_iff, pure_eq_ok, Except.ok.injEq] at h
    obtain ⟨pairs, hpairs, others, hothers, rfl⟩ := h
    obtain ⟨honce, hfilledNext⟩ :=
      drawsOnce_encodeDocument hfields hown hfirst hspent hfilled hpairs
    obtain ⟨hlength, hdraws⟩ := ih hrest honce.spent hfilledNext hothers
    refine ⟨by simp [hlength], ?_⟩
    intro i es hes
    cases i with
    | zero =>
      obtain rfl : first = es := by simpa using hes
      exact ⟨_, rfl, honce⟩
    | succ i =>
      obtain ⟨encoding, hencoding, hlater⟩ := hdraws i es (by simpa using hes)
      refine ⟨encoding, by simpa using hencoding, ?_⟩
      have hcount : ([first].countP fun es => es.lacks above name) +
          ((documents.take i).countP fun es => es.lacks above name) =
          ((first :: documents).take (i + 1)).countP fun es => es.lacks above name := by
        rw [← List.countP_append]
        rfl
      rw [← hcount, ← Nat.add_assoc]
      exact hlater

end Sequence

/-- Of documents that are encoded one after the other, each one with a gap at the place of a field
with a producer of its own gets what the producer yields at the call numbered by the gaps before it,
both as it is left and as it is stored. A document that holds the field keeps what it holds, only
extended by the sub-fields that are declared for it. After each document there have been as many
calls as gaps. -/
theorem encodeDocuments_draws (hfields : fields.Proper)
    (hown : fields.OwnsDefault above name d default) {documents : List Entries}
    (hdocuments : ∀ es ∈ documents, (Value.map es).Proper) {encodings : List Encoding}
    (h : encodeDocuments fields (documents.map .map) noDraws = .ok encodings) :
    encodings.length = documents.length ∧
      ∀ i es, documents[i]? = some es → ∃ encoding : Encoding, encodings[i]? = some encoding ∧
        encoding.DrawsOnce default above name d es
          ((documents.take i).countP fun es => es.lacks above name) := by
  have hspent : noDraws.Spent default 0 := fun id _ => rfl
  obtain ⟨hlength, hdraws⟩ := drawsOnce_encodeDocuments hfields hown hdocuments hspent rfl h
  refine ⟨hlength, fun i es hes => ?_⟩
  obtain ⟨encoding, hencoding, honce⟩ := hdraws i es hes
  rw [Nat.zero_add] at honce
  exact ⟨encoding, hencoding, honce⟩

/-- Fields with a producer at each of two depths. -/
def tokenFields : Fields :=
  [(.text "number", ⟨.integer, some (.producer 0 none [.int 1, .int 2]), none⟩),
    (.text "session", ⟨.structured, none,
      some [(.text "token", ⟨.text, some (.producer 1 none [.text "a", .text "b"]), none⟩)]⟩)]

/-- Documents with a gap, with a token of their own, without anything above the token, and with a
gap again. -/
def tokenDocuments : List Entries :=
  [[(.text "session", .map [])], [(.text "session", .map [(.text "token", .text "own")])], [],
    [(.text "session", .map [])]]

lemma tokenFields_proper : tokenFields.Proper := by
  refine ⟨⟨by decide, by decide⟩, ?_⟩
  simp only [tokenFields, List.forall_mem_cons]
  refine ⟨.plain _ _, .nested ⟨by decide, by decide⟩ ?_, by simp⟩
  simp only [List.forall_mem_cons]
  exact ⟨.plain _ _, by simp⟩

lemma tokenFields_owns :
    tokenFields.OwnsDefault [.text "session"] (.text "token")
      ⟨.text, some (.producer 1 none [.text "a", .text "b"]), none⟩
      (.producer 1 none [.text "a", .text "b"]) := by
  refine ⟨.inside (.tail _ (.head _)) rfl (.here (.head _)), rfl, rfl, ?_⟩
  intro others other v e hdeclares hv _ heq
  cases hdeclares with
  | here h =>
    simp only [tokenFields, List.mem_cons, Prod.mk.injEq, List.not_mem_nil, or_false] at h
    rcases h with ⟨-, rfl⟩ | ⟨-, rfl⟩
    · cases hv
      cases heq
    · cases hv
  | inside h hnested hbelow =>
    simp only [tokenFields, List.mem_cons, Prod.mk.injEq, List.not_mem_nil, or_false] at h
    rcases h with ⟨rfl, rfl⟩ | ⟨rfl, rfl⟩
    · cases hnested
    · cases hnested
      cases hbelow with
      | here h =>
        obtain ⟨rfl, -⟩ := Prod.mk.inj (List.mem_singleton.1 h)
        exact ⟨rfl, rfl⟩
      | inside h hnested _ =>
        obtain ⟨-, rfl⟩ := Prod.mk.inj (List.mem_singleton.1 h)
        cases hnested

lemma tokenDocuments_proper : ∀ es ∈ tokenDocuments, (Value.map es).Proper := by
  have hempty : (Value.map []).Proper := .map ⟨by decide, by decide⟩ (by simp)
  have hown : (Value.map [(.text "token", .text "own")]).Proper := by
    refine .map ⟨by decide, by decide⟩ ?_
    simp only [List.forall_mem_cons]
    exact ⟨.leaf rfl, by simp⟩
  have hsession : ∀ v : Value, v.Proper → (Value.map [(.text "session", v)]).Proper := by
    intro v hv
    refine .map ⟨by simp [Entries.keys, Value.canBeKey], by simp [Entries.keys]⟩ ?_
    simp only [List.forall_mem_cons]
    exact ⟨hv, by simp⟩
  simp only [tokenDocuments, List.forall_mem_cons]
  exact ⟨hsession _ hempty, hsession _ hown, hempty, hsession _ hempty, by simp⟩

/-- The fourth document is the second one with a gap, and gets what is yielded at the second
call. -/
theorem encodeDocuments_draws_tokens :
    ∃ encodings, encodeDocuments tokenFields (tokenDocuments.map .map) noDraws = .ok encodings ∧
      ∃ encoding : Encoding, encodings[3]? = some encoding ∧
        encoding.Holds [.text "session", .text "token"] (.text "b") := by
  refine ⟨_, rfl, ?_⟩
  obtain ⟨-, hdraws⟩ :=
    encodeDocuments_draws tokenFields_proper tokenFields_owns tokenDocuments_proper rfl
  obtain ⟨encoding, hencoding, honce⟩ := hdraws 3 _ rfl
  obtain ⟨value, hyield, hholds⟩ := honce.gap rfl
  obtain rfl : Value.text "b" = value := Option.some.inj hyield
  exact ⟨encoding, hencoding, hholds⟩

/-- A definition of a field that has a producer for its default and sub-fields as well. -/
def profileDefinition : Value :=
  .map [(.text "profile", .map [
    (.text "type", .map [(.text "ok", .map [(.text "type", .kind .boolean),
      (.text "default", .bool false)])]),
    (.text "default", .producer 0 none [.map []])])]

/-- A document that holds the field does not keep what it holds as it was, if that is a mapping in
which a sub-field is filled in. -/
theorem encodeDocuments_draws_extended :
    ∃ fields encoding, Fields.ofDefinition profileDefinition = .ok fields ∧
      encodeDocuments fields [.map [(.text "profile", .map [])]] noDraws = .ok [encoding] ∧
      encoding.document = .map [(.text "profile", .map [(.text "ok", .bool false)])] ∧
      encoding.pairs = .ok [(.text "profile", .text "\x7b\"ok\":false\x7d")] :=
  ⟨_, _, rfl, rfl, rfl, rfl⟩

end Codec
end DocTable
