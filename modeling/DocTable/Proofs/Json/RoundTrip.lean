/-
# Reading the JSON text of a value

The text that is printed for a value is read back, in front of whatever may follow a value, as
`readBack` says: the reader and the printer agree on words, integers, strings, the marks between
items and members, and on the order of the members. The fuel of the reader is twice the length of
the text, since of two calls in a row at least one consumes a character.
-/
import DocTable.Proofs.Json.Form
import DocTable.Proofs.Json.Scalar

namespace DocTable
namespace Json

open Text (ne_of_isDigit exists_cons_decimal)
open Value

/-- For a value, reading its text gives what `readBack` says. -/
def ReadsText (v : Value) : Prop :=
  ∀ s, print v = .ok s → ∀ fuel room rest, EndsValue rest → 2 * s.toList.length ≤ fuel →
    readValue fuel room (s.toList ++ rest) = (readBack room v).map fun w => (w, rest)

/-- A text that starts with a character that neither is passed over nor closes a list. -/
def StartsValue (text : List Char) : Prop :=
  ∃ c rest, text = c :: rest ∧ isSpace c = false ∧ c ≠ ']' ∧ c ≠ '\x7d'

lemma StartsValue.append {text : List Char} (h : StartsValue text) (rest : List Char) :
    StartsValue (text ++ rest) := by
  obtain ⟨c, cs, rfl, hc⟩ := h
  exact ⟨c, cs ++ rest, rfl, hc⟩

lemma skipSpaces_of_startsValue {text : List Char} (h : StartsValue text) :
    skipSpaces text = text := by
  obtain ⟨c, cs, rfl, hc, -⟩ := h
  simp [skipSpaces, hc]

lemma startsValue_of_isDigit {c : Char} (h : c.isDigit) (rest : List Char) :
    StartsValue (c :: rest) := by
  have hne : ∀ d : Char, d.isDigit = false → c ≠ d := fun d hd => ne_of_isDigit h hd
  exact ⟨c, rest, rfl, by simp [isSpace, hne], hne _ (by decide), hne _ (by decide)⟩

/-! ## Values that hold no others -/

lemma readValue_eq_readScalar {c : Char} (hlist : c ≠ '[') (hmap : c ≠ '\x7b') (fuel room : Nat)
    (rest : List Char) : readValue (fuel + 1) room (c :: rest) = readScalar (c :: rest) := by
  rw [readValue.eq_6]
  all_goals
    intros
    simp_all

/-- The text of a value that holds no others. -/
structure ScalarText (text : List Char) : Prop where
  starts : StartsValue text
  notList : text.head? ≠ some '['
  notMap : text.head? ≠ some '\x7b'

lemma readValue_of_scalarText {text : List Char} (h : ScalarText text) (fuel room : Nat)
    (rest : List Char) : readValue (fuel + 1) room (text ++ rest) = readScalar (text ++ rest) := by
  obtain ⟨c, cs, rfl, -⟩ := h.starts
  exact readValue_eq_readScalar (by simpa using h.notList) (by simpa using h.notMap) fuel room _

lemma scalarText_quote (s : String) : ScalarText (quote s).toList := by
  have htext : (quote s).toList = '\x22' :: (s.toList.flatMap escapedChar ++ ['\x22']) := by
    simp [quote]
  rw [htext]
  exact ⟨⟨_, _, rfl, by decide, by decide, by decide⟩, by simp, by simp⟩

lemma scalarText_int (n : Int) : ScalarText (Int.repr n).toList := by
  cases n with
  | ofNat m =>
    obtain ⟨c, digits, hds, hc⟩ := exists_cons_decimal m
    rw [Text.toList_repr_ofNat, hds]
    have hne : ∀ d : Char, d.isDigit = false → c ≠ d := fun d hd => ne_of_isDigit hc hd
    exact ⟨startsValue_of_isDigit hc _, by simpa using hne '[' (by decide),
      by simpa using hne '\x7b' (by decide)⟩
  | negSucc m =>
    rw [Text.toList_repr_negSucc]
    exact ⟨⟨_, _, rfl, by decide, by decide, by decide⟩, by simp, by simp⟩

lemma scalarText_null : ScalarText "null".toList :=
  ⟨⟨_, _, rfl, by decide, by decide, by decide⟩, by simp, by simp⟩

lemma scalarText_bool (b : Bool) : ScalarText (if b then "true" else "false").toList := by
  cases b <;> exact ⟨⟨_, _, rfl, by decide, by decide, by decide⟩, by simp, by simp⟩

/-- A value whose text is that of a scalar is read by the reader of scalars. -/
lemma readsText_of_readScalar {v : Value} {s : String} (hp : print v = .ok s)
    (hs : ScalarText s.toList)
    (hread : ∀ room rest, EndsValue rest →
      readScalar (s.toList ++ rest) = (readBack room v).map fun w => (w, rest)) : ReadsText v := by
  intro t ht fuel room rest hrest hfuel
  obtain rfl : s = t := by rw [hp] at ht; exact Except.ok.inj ht
  cases fuel with
  | zero =>
    -- the text has at least one character, so some fuel is left
    obtain ⟨c, cs, hcs, -⟩ := hs.starts
    rw [hcs, List.length_cons] at hfuel
    omega
  | succ fuel => rw [readValue_of_scalarText hs, hread room rest hrest]

lemma readsText_quote {v : Value} {s : String} (hp : print v = .ok (quote s))
    (hb : ∀ room, readBack room v = .ok (.text s)) : ReadsText v :=
  readsText_of_readScalar hp (scalarText_quote s) fun room rest _ => by
    rw [readScalar_text, hb]; rfl

lemma readsText_int (n : Int) : ReadsText (.int n) :=
  readsText_of_readScalar rfl (scalarText_int n) fun room rest hrest => by
    rw [readScalar_int n hrest, readBack]
    split_ifs <;> rfl

lemma readsText_null : ReadsText .null :=
  readsText_of_readScalar rfl scalarText_null fun room rest _ => by
    rw [readScalar_null]
    cases room <;> rfl

lemma readsText_bool (b : Bool) : ReadsText (.bool b) :=
  readsText_of_readScalar rfl (scalarText_bool b) fun room rest _ => by
    rw [readScalar_bool]
    cases room <;> rfl

lemma formatTimestamp_of_isSome {t : Timestamp} (h : t.utc?.isSome) :
    ∃ s, Codec.formatTimestamp t = .ok s := by
  obtain ⟨reading, hreading⟩ := Option.isSome_iff_exists.1 h
  exact ⟨reading.storageText, by rw [Codec.formatTimestamp, hreading]⟩

lemma readsText_timestamp {t : Timestamp} (h : t.utc?.isSome) : ReadsText (.timestamp t) := by
  obtain ⟨s, hs⟩ := formatTimestamp_of_isSome h
  have hp : print (.timestamp t) = .ok (quote s) := by rw [print, hs]; rfl
  have hform : jsonForm (.timestamp t) = .text s := by
    rw [jsonForm, Codec.formatTemporal, hs]
    all_goals simp
  exact readsText_quote hp fun room => by cases room <;> rw [readBack, hform] <;> simp

/-! ## The texts of portable values -/

lemma printItems_cons_eq_ok {v : Value} {vs : List Value} {texts : List String} :
    printItems (v :: vs) = .ok texts ↔
      ∃ s ss, print v = .ok s ∧ printItems vs = .ok ss ∧ texts = s :: ss := by
  simp only [printItems, bind_eq_ok_iff, pure_eq_ok, Except.ok.injEq]
  constructor
  · rintro ⟨s, hs, ss, hss, rfl⟩; exact ⟨s, ss, hs, hss, rfl⟩
  · rintro ⟨s, ss, hs, hss, rfl⟩; exact ⟨s, hs, ss, hss, rfl⟩

lemma print_list_eq_ok {items : List Value} {s : String} :
    print (.list items) = .ok s ↔
      ∃ texts, printItems items = .ok texts ∧ "[" ++ String.intercalate "," texts ++ "]" = s := by
  simp only [print, bind_eq_ok_iff, pure_eq_ok, Except.ok.injEq]

lemma print_map_eq_ok {entries : Entries} {s : String} :
    print (.map entries) = .ok s ↔
      ∃ texts, printEntries entries = .ok texts ∧
        "\x7b" ++ String.intercalate "," texts ++ "\x7d" = s := by
  simp only [print, bind_eq_ok_iff, pure_eq_ok, Except.ok.injEq]

lemma print_tuple (items : List Value) : print (.tuple items) = print (.list items) := rfl

lemma startsValue_list {items : List Value} {s : String} (hs : print (.list items) = .ok s) :
    StartsValue s.toList := by
  obtain ⟨texts, -, rfl⟩ := print_list_eq_ok.1 hs
  exact ⟨'[', (String.intercalate "," texts ++ "]").toList, by simp, by decide, by decide,
    by decide⟩

lemma startsValue_map {entries : Entries} {s : String} (hs : print (.map entries) = .ok s) :
    StartsValue s.toList := by
  obtain ⟨texts, -, rfl⟩ := print_map_eq_ok.1 hs
  exact ⟨'\x7b', (String.intercalate "," texts ++ "\x7d").toList, by simp, by decide, by decide,
    by decide⟩

/-- The text of a portable value starts as the text of a value does. -/
lemma startsValue_print {v : Value} (hv : Portable v) {s : String} (hs : print v = .ok s) :
    StartsValue s.toList := by
  cases hv with
  | null => cases hs; exact scalarText_null.starts
  | bool b => cases hs; exact (scalarText_bool b).starts
  | int n => cases hs; exact (scalarText_int n).starts
  | text t => cases hs; exact (scalarText_quote t).starts
  | date d =>
    rw [print, Except.ok.injEq] at hs
    exact hs ▸ (scalarText_quote (Codec.formatDate d)).starts
  | timestamp h =>
    simp only [print, bind_eq_ok_iff, pure_eq_ok, Except.ok.injEq] at hs
    obtain ⟨t, -, rfl⟩ := hs
    exact (scalarText_quote t).starts
  | list _ => exact startsValue_list hs
  | tuple _ => exact startsValue_list (print_tuple _ ▸ hs)
  | map _ _ => exact startsValue_map hs

/-- Texts with commas between them. -/
def commaText (texts : List String) : List Char := (String.intercalate "," texts).toList

lemma commaText_singleton (s : String) : commaText [s] = s.toList := by
  rw [commaText, String.intercalate_singleton]

lemma commaText_cons_cons (s t : String) (ss : List String) :
    commaText (s :: t :: ss) = s.toList ++ ',' :: commaText (t :: ss) := by
  have hcomma : ",".toList = [','] := rfl
  simp only [commaText, String.intercalate_cons_cons, String.toList_append, hcomma,
    List.append_assoc, List.singleton_append]

lemma startsValue_commaText {s : String} (h : StartsValue s.toList) (ss : List String) :
    StartsValue (commaText (s :: ss)) := by
  cases ss with
  | nil => rwa [commaText_singleton]
  | cons t ts => rw [commaText_cons_cons]; exact h.append _

/-! ## Lists -/

lemma readItems_last {fuel room : Nat} {text rest : List Char} {found : Except Problem Value}
    (h : readValue fuel room (text ++ ']' :: rest) = found.map fun w => (w, ']' :: rest)) :
    readItems (fuel + 1) room (text ++ ']' :: rest) = found.map fun w => ([w], rest) := by
  rw [readItems, h]
  cases found <;> rfl

lemma readItems_more {fuel room : Nat} {text more : List Char} {found : Except Problem Value}
    (h : readValue fuel room (text ++ ',' :: more) = found.map fun w => (w, ',' :: more))
    (hmore : StartsValue more) :
    readItems (fuel + 1) room (text ++ ',' :: more) =
      found >>= fun w => (readItems fuel room more).map fun ws => (w :: ws.1, ws.2) := by
  rw [readItems, h]
  cases found with
  | error e => rfl
  | ok w =>
    have hcomma : skipSpaces (',' :: more) = ',' :: more := rfl
    simp only [Except.map, ok_bind, hcomma, skipSpaces_of_startsValue hmore]
    cases readItems fuel room more <;> rfl

lemma readBackItems_cons (room : Nat) (v : Value) (vs : List Value) :
    readBackItems room (v :: vs) =
      (readBack room v >>= fun w => (readBackItems room vs).map fun ws => w :: ws) := by
  rw [readBackItems]
  cases readBack room v with
  | error e => rfl
  | ok w => cases readBackItems room vs <;> rfl

/-- Reading the texts of items between commas gives what `readBackItems` says. -/
lemma readItems_print {items : List Value} (hread : ∀ v ∈ items, ReadsText v)
    (hport : ∀ v ∈ items, Portable v) (hne : items ≠ []) {texts : List String}
    (hs : printItems items = .ok texts) (fuel room : Nat) (rest : List Char)
    (hfuel : 2 * (commaText texts).length < fuel) :
    readItems fuel room (commaText texts ++ ']' :: rest) =
      (readBackItems room items).map fun ws => (ws, rest) := by
  induction items generalizing texts fuel with
  | nil => exact absurd rfl hne
  | cons v vs ih =>
    obtain ⟨s, ss, hv, hvs, rfl⟩ := printItems_cons_eq_ok.1 hs
    obtain ⟨fuel, rfl⟩ : ∃ n, fuel = n + 1 := ⟨fuel - 1, by omega⟩
    have hfirst := hread v List.mem_cons_self s hv fuel room
    cases vs with
    | nil =>
      -- the last item stands in front of the closing mark, any other in front of a comma
      cases hvs
      rw [commaText_singleton] at hfuel ⊢
      rw [readItems_last (hfirst _ (endsValue_cons (by simp) _) (by omega))]
      simp only [readBackItems, ok_bind, pure_eq_ok]
      cases readBack room v <;> rfl
    | cons v' vs =>
      have hrest := ih (fun u hu => hread u (List.mem_cons_of_mem _ hu))
        (fun u hu => hport u (List.mem_cons_of_mem _ hu)) (by simp) hvs fuel
      obtain ⟨s', ss', hv', -, rfl⟩ := printItems_cons_eq_ok.1 hvs
      have hstart := startsValue_commaText (startsValue_print (hport v' (by simp)) hv') ss'
      rw [commaText_cons_cons] at hfuel ⊢
      rw [List.length_append, List.length_cons] at hfuel
      rw [List.append_assoc, List.cons_append,
        readItems_more (hfirst _ (endsValue_cons (by simp) _) (by omega)) (hstart.append _),
        hrest (by omega), readBackItems_cons room v]
      cases readBack room v with
      | error e => rfl
      | ok w => simp only [ok_bind]; cases readBackItems room (v' :: vs) <;> rfl

lemma readValue_list {fuel room : Nat} {text : List Char} (h : StartsValue text) :
    readValue (fuel + 1) (room + 1) ('[' :: text) =
      (readItems fuel room text).map fun found => (.list found.1, found.2) := by
  rw [readValue, skipSpaces_of_startsValue h]
  obtain ⟨c, cs, rfl, -, hbracket, -⟩ := h
  split
  · rename_i heq; exact absurd (List.cons.inj heq).1 hbracket
  · rfl

lemma readsText_list {items : List Value} (hread : ∀ v ∈ items, ReadsText v)
    (hport : ∀ v ∈ items, Portable v) : ReadsText (.list items) := by
  intro s hs fuel room rest hrest hfuel
  obtain ⟨texts, htexts, rfl⟩ := print_list_eq_ok.1 hs
  have htext : ("[" ++ String.intercalate "," texts ++ "]").toList =
      '[' :: (commaText texts ++ [']']) := by
    simp [commaText]
  rw [htext] at hfuel ⊢
  simp only [List.length_cons, List.length_append, List.length_nil] at hfuel
  -- the opening mark pays for this call
  obtain ⟨fuel, rfl⟩ : ∃ n, fuel = n + 1 := ⟨fuel - 1, by omega⟩
  rw [List.cons_append, List.append_assoc, List.singleton_append]
  cases room with
  | zero => rfl
  | succ room =>
    cases items with
    | nil => cases htexts; rfl
    | cons v vs =>
      have hitems := readItems_print hread hport (by simp) htexts fuel room rest (by omega)
      obtain ⟨s, ss, hv, -, rfl⟩ := printItems_cons_eq_ok.1 htexts
      have hstart := startsValue_commaText (startsValue_print (hport v (by simp)) hv) ss
      rw [readValue_list (hstart.append _), hitems, readBack]
      cases readBackItems room (v :: vs) <;> rfl

/-! ## Mappings -/

/-- The text of a member of an object. -/
def memberText (name s : String) : String := quote name ++ ":" ++ s

lemma toList_memberText (name s : String) :
    (memberText name s).toList =
      '\x22' :: (name.toList.flatMap escapedChar ++ '\x22' :: ':' :: s.toList) := by
  simp [memberText, quote]

lemma startsValue_memberText (name s : String) : StartsValue (memberText name s).toList := by
  rw [toList_memberText]
  exact ⟨_, _, rfl, by decide, by decide, by decide⟩

lemma printEntries_cons_eq_ok {name : String} {v : Value} {es : Entries} {texts : List String} :
    printEntries ((.text name, v) :: es) = .ok texts ↔
      ∃ s ss, print v = .ok s ∧ printEntries es = .ok ss ∧ texts = memberText name s :: ss := by
  simp only [printEntries, keyText, ok_bind, bind_eq_ok_iff, pure_eq_ok, Except.ok.injEq]
  constructor
  · rintro ⟨s, hs, ss, hss, rfl⟩; exact ⟨s, ss, hs, hss, rfl⟩
  · rintro ⟨s, ss, hs, hss, rfl⟩; exact ⟨s, hs, ss, hss, rfl⟩

lemma readMembers_last {fuel room : Nat} {name s : String} {rest : List Char}
    {found : Except Problem Value} (hs : StartsValue s.toList)
    (h : readValue fuel room (s.toList ++ '\x7d' :: rest) =
      found.map fun w => (w, '\x7d' :: rest)) :
    readMembers (fuel + 1) room ((memberText name s).toList ++ '\x7d' :: rest) =
      found.map fun w => ([(.text name, w)], rest) := by
  rw [toList_memberText, List.cons_append, List.append_assoc, readMembers]
  simp only [List.cons_append, readString_quote, ok_bind]
  have hcolon : skipSpaces (':' :: (s.toList ++ '\x7d' :: rest)) =
      ':' :: (s.toList ++ '\x7d' :: rest) := rfl
  simp only [hcolon, skipSpaces_of_startsValue (hs.append _), h]
  cases found <;> rfl

lemma readMembers_more {fuel room : Nat} {name s : String} {more : List Char}
    {found : Except Problem Value} (hs : StartsValue s.toList)
    (h : readValue fuel room (s.toList ++ ',' :: more) = found.map fun w => (w, ',' :: more))
    (hmore : StartsValue more) :
    readMembers (fuel + 1) room ((memberText name s).toList ++ ',' :: more) =
      found >>= fun w => (readMembers fuel room more).map fun ws =>
        ((.text name, w) :: ws.1, ws.2) := by
  rw [toList_memberText, List.cons_append, List.append_assoc, readMembers]
  simp only [List.cons_append, readString_quote, ok_bind]
  have hcolon : skipSpaces (':' :: (s.toList ++ ',' :: more)) =
      ':' :: (s.toList ++ ',' :: more) := rfl
  have hcomma : skipSpaces (',' :: more) = ',' :: more := rfl
  simp only [hcolon, skipSpaces_of_startsValue (hs.append _), h]
  cases found with
  | error e => rfl
  | ok w =>
    simp only [Except.map, ok_bind, hcomma, skipSpaces_of_startsValue hmore]
    cases readMembers fuel room more <;> rfl

lemma readBackEntries_cons (room : Nat) (k v : Value) (es : Entries) :
    readBackEntries room ((k, v) :: es) =
      (readBack room v >>= fun w => (readBackEntries room es).map fun ws => (k, w) :: ws) := by
  rw [readBackEntries]
  cases readBack room v with
  | error e => rfl
  | ok w => cases readBackEntries room es <;> rfl

/-- Reading the texts of members between commas gives what `readBackEntries` says. -/
lemma readMembers_print {entries : Entries} (hread : ∀ e ∈ entries, ReadsText e.2)
    (hport : ∀ e ∈ entries, Portable e.2) (hnames : ∀ e ∈ entries, ∃ name, e.1 = .text name)
    (hne : entries ≠ []) {texts : List String} (hs : printEntries entries = .ok texts)
    (fuel room : Nat) (rest : List Char) (hfuel : 2 * (commaText texts).length < fuel) :
    readMembers fuel room (commaText texts ++ '\x7d' :: rest) =
      (readBackEntries room entries).map fun ws => (ws, rest) := by
  induction entries generalizing texts fuel with
  | nil => exact absurd rfl hne
  | cons e es ih =>
    obtain ⟨k, v⟩ := e
    obtain ⟨name, rfl⟩ := hnames _ List.mem_cons_self
    obtain ⟨s, ss, hv, hvs, rfl⟩ := printEntries_cons_eq_ok.1 hs
    obtain ⟨fuel, rfl⟩ : ∃ n, fuel = n + 1 := ⟨fuel - 1, by omega⟩
    have hstart := startsValue_print (hport _ List.mem_cons_self) hv
    have hfirst := hread _ List.mem_cons_self s hv fuel room
    have hlen : s.toList.length ≤ (memberText name s).toList.length := by
      simp [toList_memberText]; omega
    cases es with
    | nil =>
      cases hvs
      rw [commaText_singleton] at hfuel ⊢
      rw [readMembers_last hstart (hfirst _ (endsValue_cons (by simp) _) (by omega))]
      simp only [readBackEntries, ok_bind, pure_eq_ok]
      cases readBack room v <;> rfl
    | cons e' es =>
      obtain ⟨k', v'⟩ := e'
      have hrest := ih (fun u hu => hread u (List.mem_cons_of_mem _ hu))
        (fun u hu => hport u (List.mem_cons_of_mem _ hu))
        (fun u hu => hnames u (List.mem_cons_of_mem _ hu)) (by simp) hvs fuel
      obtain ⟨name', rfl⟩ := hnames (k', v') (by simp)
      obtain ⟨s', ss', -, -, rfl⟩ := printEntries_cons_eq_ok.1 hvs
      have hmore := startsValue_commaText (startsValue_memberText name' s') ss'
      rw [commaText_cons_cons] at hfuel ⊢
      rw [List.length_append, List.length_cons] at hfuel
      rw [List.append_assoc, List.cons_append,
        readMembers_more hstart (hfirst _ (endsValue_cons (by simp) _) (by omega))
          (hmore.append _), hrest (by omega), readBackEntries_cons room (.text name)]
      cases readBack room v with
      | error e => rfl
      | ok w => simp only [ok_bind]; cases readBackEntries room ((.text name', v') :: es) <;> rfl

/-- Reading keeps the keys, so the entries that are read are as distinct as those printed. -/
lemma keys_of_readBackEntries {room : Nat} {entries ws : Entries}
    (h : readBackEntries room entries = .ok ws) : ws.keys = entries.keys := by
  induction entries generalizing ws with
  | nil => cases h; rfl
  | cons e es ih =>
    obtain ⟨k, v⟩ := e
    simp only [readBackEntries_cons, bind_eq_ok_iff, map_eq_ok_iff] at h
    obtain ⟨w, -, rest, hrest, rfl⟩ := h
    simp only [Entries.keys, List.map_cons, List.cons.injEq, true_and]
    exact ih hrest

lemma readValue_map {fuel room : Nat} {text : List Char} (h : StartsValue text) :
    readValue (fuel + 1) (room + 1) ('\x7b' :: text) =
      (readMembers fuel room text).map fun found =>
        (.map (Entries.ofAssignments found.1), found.2) := by
  rw [readValue, skipSpaces_of_startsValue h]
  obtain ⟨c, cs, rfl, -, -, hbrace⟩ := h
  split
  · rename_i heq; exact absurd (List.cons.inj heq).1 hbrace
  · rfl

lemma readsText_map {entries : Entries} (hnamed : entries.Named)
    (hread : ∀ e ∈ entries, ReadsText e.2) (hport : ∀ e ∈ entries, Portable e.2) :
    ReadsText (.map entries) := by
  intro s hs fuel room rest hrest hfuel
  obtain ⟨texts, htexts, rfl⟩ := print_map_eq_ok.1 hs
  have htext : ("\x7b" ++ String.intercalate "," texts ++ "\x7d").toList =
      '\x7b' :: (commaText texts ++ ['\x7d']) := by
    simp [commaText]
  rw [htext] at hfuel ⊢
  simp only [List.length_cons, List.length_append, List.length_nil] at hfuel
  obtain ⟨fuel, rfl⟩ : ∃ n, fuel = n + 1 := ⟨fuel - 1, by omega⟩
  rw [List.cons_append, List.append_assoc, List.singleton_append]
  cases room with
  | zero => rfl
  | succ room =>
    cases entries with
    | nil => cases htexts; rfl
    | cons e es =>
      obtain ⟨k, v⟩ := e
      have hmembers := readMembers_print hread hport hnamed.texts (by simp) htexts fuel room rest
        (by omega)
      obtain ⟨name, rfl⟩ := hnamed.texts _ List.mem_cons_self
      obtain ⟨s, ss, hv, -, rfl⟩ := printEntries_cons_eq_ok.1 htexts
      have hstart := startsValue_commaText (startsValue_memberText name s) ss
      rw [readValue_map (hstart.append _), hmembers, readBack]
      cases hback : readBackEntries room ((.text name, v) :: es) with
      | error e => rfl
      | ok ws =>
        -- the members have the keys of the entries, so no assignment replaces another
        have hws := (hnamed.of_keys_eq (keys_of_readBackEntries hback)).distinct
        simp only [Except.map, Entries.ofAssignments_of_distinct hws]

/-! ## Whole texts -/

/-- The text of a portable value is read back as `readBack` says. -/
lemma readsText_of_portable {v : Value} (hv : Portable v) : ReadsText v := by
  induction hv with
  | null => exact readsText_null
  | bool b => exact readsText_bool b
  | int n => exact readsText_int n
  | text s => exact readsText_quote rfl fun room => by cases room <;> rfl
  | date d => exact readsText_quote rfl fun room => by cases room <;> rfl
  | timestamp h => exact readsText_timestamp h
  | list h ih => exact readsText_list ih h
  | tuple h ih =>
    intro s hs fuel room rest
    rw [readBack_tuple]
    exact readsText_list ih h s hs fuel room rest
  | map hnamed h ih => exact readsText_map hnamed ih h

lemma exists_printItems {items : List Value} (h : ∀ v ∈ items, ∃ s, print v = .ok s) :
    ∃ texts, printItems items = .ok texts := by
  induction items with
  | nil => exact ⟨[], rfl⟩
  | cons v vs ih =>
    obtain ⟨s, hs⟩ := h v List.mem_cons_self
    obtain ⟨ss, hss⟩ := ih fun u hu => h u (List.mem_cons_of_mem _ hu)
    exact ⟨s :: ss, printItems_cons_eq_ok.2 ⟨s, ss, hs, hss, rfl⟩⟩

lemma exists_printEntries {entries : Entries} (hnames : ∀ e ∈ entries, ∃ name, e.1 = .text name)
    (h : ∀ e ∈ entries, ∃ s, print e.2 = .ok s) : ∃ texts, printEntries entries = .ok texts := by
  induction entries with
  | nil => exact ⟨[], rfl⟩
  | cons e es ih =>
    obtain ⟨k, v⟩ := e
    obtain ⟨name, rfl⟩ := hnames _ List.mem_cons_self
    obtain ⟨s, hs⟩ := h _ List.mem_cons_self
    obtain ⟨ss, hss⟩ := ih (fun u hu => hnames u (List.mem_cons_of_mem _ hu))
      fun u hu => h u (List.mem_cons_of_mem _ hu)
    exact ⟨memberText name s :: ss, printEntries_cons_eq_ok.2 ⟨s, ss, hs, hss, rfl⟩⟩

/-- Every portable value has a text. -/
lemma exists_print {v : Value} (hv : Portable v) : ∃ s, print v = .ok s := by
  induction hv with
  | null => exact ⟨_, rfl⟩
  | bool b => exact ⟨_, rfl⟩
  | int n => exact ⟨_, rfl⟩
  | text s => exact ⟨_, rfl⟩
  | date d => exact ⟨_, rfl⟩
  | timestamp h =>
    obtain ⟨s, hs⟩ := formatTimestamp_of_isSome h
    exact ⟨quote s, by rw [print, hs]; rfl⟩
  | list _ ih =>
    obtain ⟨texts, htexts⟩ := exists_printItems ih
    exact ⟨_, print_list_eq_ok.2 ⟨texts, htexts, rfl⟩⟩
  | tuple _ ih =>
    obtain ⟨texts, htexts⟩ := exists_printItems ih
    exact ⟨_, print_list_eq_ok.2 ⟨texts, htexts, rfl⟩⟩
  | map hnamed _ ih =>
    obtain ⟨texts, htexts⟩ := exists_printEntries hnamed.texts ih
    exact ⟨_, print_map_eq_ok.2 ⟨texts, htexts, rfl⟩⟩

/-- Reading the whole text of a portable value gives what `readBack` says. -/
lemma read_print {v : Value} (hv : Portable v) {s : String} (hs : print v = .ok s) (room : Nat) :
    read room s = readBack room v := by
  have hread := readsText_of_portable hv s hs (2 * s.toList.length + 2) room [] endsValue_nil
    (by omega)
  rw [List.append_nil] at hread
  rw [read, skipSpaces_of_startsValue (startsValue_print hv hs)]
  simp only [hread]
  cases readBack room v <;> rfl

end Json
end DocTable
