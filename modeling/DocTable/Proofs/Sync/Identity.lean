/-
# The identity column

The identity field is told from the others by its exact name, while columns are found by their names
in lower case. So a field whose name differs from that of the identity field in letter case alone is
declared like any other, and then its column is the identity column. This is the one way in which
plans come to touch the identity column.
-/
import DocTable.Proofs.Schema.Fields
import DocTable.Proofs.Sync.Plan

namespace DocTable

section Identity

variable {definition : Value} {declared : List (String × Descriptor)}

/-- A definition never declares the identity field under its exact name. -/
lemma ne_identityField_of_ofDefinition
    (h : Fields.ofDefinition definition = .ok (.named declared)) :
    ∀ f ∈ declared, f.1 ≠ identityField := by
  simp only [Fields.ofDefinition, bind_eq_ok_iff, pure_eq_ok, Except.ok.injEq] at h
  obtain ⟨entries, -, hfields⟩ := h
  intro f hf hidentity
  have hmem : (Value.text f.1, f.2) ∈ Descriptor.fieldsOfEntries entries := by
    rw [hfields]
    exact List.mem_map_of_mem hf
  rw [Descriptor.fieldsOfEntries_eq] at hmem
  obtain ⟨e, he, heq⟩ := List.mem_map.mp hmem
  have hkept := (List.mem_filter.mp he).2
  have hsame : (Value.text f.1).same (.text identityField) = true :=
    Value.same_text_iff.mpr (by rw [hidentity])
  rw [(Prod.mk.inj heq).1, hsame] at hkept
  cases hkept

lemma ownColumns_of_ofDefinition
    (h : Fields.ofDefinition definition = .ok (.named declared)) :
    ownColumns declared = declared :=
  List.filter_eq_self.mpr fun f hf => by
    simpa using ne_identityField_of_ofDefinition h f hf

lemma lower_identityField : Text.lower identityField = identityField := by decide +kernel

/-- Plans for the fields of a definition touch the identity column for one reason only: some field
has its name in another letter case. A change of an existing table is for the identity column
exactly if the column that is found under this name does not satisfy such a field or is missing, and
a new table gets one column of this name exactly if there is no such field. -/
theorem touches_identity_iff (h : Fields.ofDefinition definition = .ok (.named declared))
    (d : Dialect) (table : String) (columns : List Column) :
    (∃ changes, planAlter d table columns (.named declared) = .ok changes ∧
      ((∃ c ∈ changes, c.column.map Text.lower = some identityField) ↔
        ∃ f ∈ declared, Text.lower f.1 = identityField ∧
          ∀ column, findColumn? columns identityField = some column →
            Column.isCompatible column.nativeType (d.storageOf f.2) = false)) ∧
    ∃ c, planCreate d table (.named declared) = .ok [c] ∧
      c.statement = some (d.createTable table (declared.map d.definitionOf)) ∧
      ((identityField :: declared.map Prod.fst).countP (Text.lower · = identityField) = 1 ↔
        ∀ f ∈ declared, Text.lower f.1 ≠ identityField) := by
  refine ⟨⟨_, planAlter_named d table columns declared, ?_, ?_⟩, ?_⟩
  · rintro ⟨c, hc, hcolumn⟩
    obtain ⟨f, hf, hneeded⟩ := List.mem_filterMap.mp hc
    rw [column_of_needed? hneeded] at hcolumn
    have hname : Text.lower f.1 = identityField := Option.some.inj hcolumn
    have hincompatible := (exists_needed?_iff.mp ⟨c, hneeded⟩).2
    rw [hname] at hincompatible
    exact ⟨f, hf, hname, hincompatible⟩
  · rintro ⟨f, hf, hname, hincompatible⟩
    have hother := ne_identityField_of_ofDefinition h f hf
    rw [← hname] at hincompatible
    obtain ⟨c, hneeded⟩ : ∃ c, needed? d table columns f = some c :=
      exists_needed?_iff.mpr ⟨hother, hincompatible⟩
    refine ⟨c, List.mem_filterMap.mpr ⟨f, hf, hneeded⟩, ?_⟩
    rw [column_of_needed? hneeded, Option.map_some, hname]
  · refine ⟨creation d table declared, planCreate_named d table declared, ?_, ?_⟩
    · rw [creation, ownColumns_of_ofDefinition h]
    · rw [List.countP_cons_of_pos (by simpa using lower_identityField)]
      simp [List.countP_eq_zero]

/-- A column of text under the name of the identity column in capitals. -/
def capitalField : String × Descriptor := ("ID", .plain .text none)

/-- The identity column would be made a column of text for such a field, and is left alone for
another. -/
theorem touches_identity_capitalField :
    (∃ changes, planAlter .standard "t" [⟨"id", "int"⟩] (.named [capitalField]) = .ok changes ∧
      ∃ c ∈ changes, c.column.map Text.lower = some identityField) ∧
    ∃ changes, planAlter .standard "t" [⟨"id", "int"⟩]
        (.named [("name", .plain .text none)]) = .ok changes ∧
      ∀ c ∈ changes, c.column.map Text.lower ≠ some identityField := by
  have hcapital : Text.lower "ID" = identityField := by decide +kernel
  have hplain : Text.lower "name" ≠ identityField := by decide +kernel
  have hincompatible : Column.isCompatible "int" "VARCHAR(255)" = false := by decide +kernel
  have hfields : Fields.ofDefinition (.map [(.text "ID", .text "String")]) =
      .ok (.named [capitalField]) := rfl
  have hfields' : Fields.ofDefinition (.map [(.text "name", .text "String")]) =
      .ok (.named [("name", .plain .text none)]) := rfl
  obtain ⟨changes, hchanges, htouched⟩ :=
    (touches_identity_iff hfields .standard "t" [⟨"id", "int"⟩]).1
  obtain ⟨others, hothers, huntouched⟩ :=
    (touches_identity_iff hfields' .standard "t" [⟨"id", "int"⟩]).1
  refine ⟨⟨changes, hchanges, htouched.mpr ⟨capitalField, by simp, hcapital, ?_⟩⟩,
    others, hothers, ?_⟩
  · intro column hfound
    have hcolumn : findColumn? [⟨"id", "int"⟩] identityField = some ⟨"id", "int"⟩ := rfl
    obtain rfl := Option.some.inj (hcolumn.symm.trans hfound)
    exact hincompatible
  · intro c hc htouches
    obtain ⟨f, hf, hname, -⟩ := huntouched.mp ⟨c, hc, htouches⟩
    obtain rfl := List.mem_singleton.mp hf
    exact hplain hname

/-- The primary key is changed for such a field, and a new table is to have both columns. -/
theorem identity_not_excluded :
    Fields.ofDefinition (.map [(.text "ID", .text "String")]) = .ok (.named [capitalField]) ∧
    Text.lower capitalField.1 = identityField ∧
    (∃ c, planAlter .standard "t" [⟨"id", "int"⟩] (.named [capitalField]) = .ok [c] ∧
      c.column = some "ID" ∧
      c.statement = some "ALTER TABLE `t` MODIFY COLUMN `ID` VARCHAR(255)") ∧
    ∃ c, planCreate .standard "t" (.named [capitalField]) = .ok [c] ∧
      c.statement =
        some "CREATE TABLE `t` (`id` INT AUTO_INCREMENT PRIMARY KEY, `ID` VARCHAR(255))" :=
  ⟨rfl, by decide +kernel, ⟨_, rfl, rfl, rfl⟩, _, rfl, rfl⟩

end Identity
end DocTable
