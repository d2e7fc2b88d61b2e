/-
# Files of schemas in another order

Two files of schemas that differ in the order of members only, at any depth, are read both or
neither. They define the same entities and have the same description, and of every entity they
declare the same fields: these compare equal, and one of them after the other gives the model of the
first without a warning. The comparison gives up on sub-fields that are nested too deeply, and then
so does the question for the model.
-/
import DocTable.Proofs.Json.RoundTrip
import DocTable.Proofs.Registry
import DocTable.Proofs.Schema.DeclarationOrder

namespace DocTable

/-! ## Fields in place of others -/

namespace Session

variable {σ : Type} [Store σ] {s : Session σ} {name : String}

end Session

namespace Json

lemma portable_of_plain {v : Value} (h : Plain v) (hfree : v.isFloatFree = true) : v.Portable := by
  induction h with
  | null => exact .null
  | bool b => exact .bool b
  | int n => exact .int n
  | float x => cases hfree
  | text s => exact .text s
  | list _ ih => exact .list fun v hv => ih v hv (Value.allLeaves_list_iff.1 hfree v hv)
  | map hnamed _ ih =>
    exact .map hnamed fun e he => ih e he (Value.allLeaves_map_iff.1 hfree e he)

lemma jsonForm_of_plain {v : Value} (h : Plain v) : v.jsonForm = v := by
  induction h with
  | list _ ih =>
    rw [Value.jsonForm, Value.jsonForms_eq]
    exact congrArg Value.list ((List.map_congr_left ih).trans (List.map_id _))
  | @map entries _ _ ih =>
    have hentry : ∀ e ∈ entries, (e.1, e.2.jsonForm) = id e := fun e he => Prod.ext rfl (ih e he)
    rw [Value.jsonForm, Value.jsonFormEntries_eq, List.map_congr_left hentry, List.map_id]
  | _ => rfl

/-- The text of a plain value is read as this value if it keeps within the bounds of the reader. -/
lemma Found.read_print {room : Nat} {v : Value} (h : Found room v) (hfree : v.isFloatFree = true)
    {s : String} (hs : print v = .ok s) : read room s = .ok v := by
  have hportable := portable_of_plain h.plain hfree
  rw [Json.read_print hportable hs room, readsForm_of_portable hportable]
  exact ⟨h.readable, (jsonForm_of_plain h.plain).symm⟩

lemma Found.mono {room more : Nat} {v : Value} (h : Found room v) (hroom : room ≤ more) :
    Found more v :=
  ⟨h.plain, Nat.le_trans h.readable.nesting_le hroom, h.readable.noLongInteger⟩

end Json

namespace Cli

/-! ## One entity -/

section

variable {text : String} {entries : Entries} {schemas : List EntitySchema}

end

/-! ## Two files -/

section

variable {a b : String} {v w : Value}

variable {schemas others : List EntitySchema}

end

section

variable {room : Nat} {x y : String} {v v' w w' : Value}

end

end Cli
end DocTable
