import Mathlib.Data.List.Perm.Basic
import SearchCollection.Proofs.Keys
import SearchCollection.Proofs.Schema.Assembled

/-! # The order of a declaration

Two declarations with the same entries in different orders get the same entries added
behind them, since both have the same names. So they are completed to the same entries
in different orders (`RecordType.normalized_perm`). Each field is resolved from its own
entry alone, and a setting sees the fields by their declared names, which are distinct.
Hence both declarations are assembled or none is, and what they are assembled to differs
in order only (`exists_assemble_of_perm`).
-/

namespace SearchCollection

variable {first second : Declaration}

/-- The record type with another declaration. -/
def RecordType.declaring (type : RecordType) (declaration : Declaration) : RecordType :=
  { type with declared := .ok declaration }

namespace RecordType

theorem mem_names_of_perm (perm : first.entries.Perm second.entries) {name : String} :
    name ∈ first.names ↔ name ∈ second.names :=
  (perm.map Prod.fst).mem_iff

/-- Whether a primary key is added does not depend on the order of entries. -/
theorem keyEntry_eq_of_perm (type : RecordType) (perm : first.entries.Perm second.entries) :
    type.keyEntry first = type.keyEntry second := by
  unfold keyEntry
  simp only [mem_names_of_perm perm]

/-- Whether a time of deletion is added does not depend on the order of entries. -/
theorem deletionEntry_eq_of_perm (type : RecordType) (perm : first.entries.Perm second.entries) :
    type.deletionEntry first = type.deletionEntry second := by
  unfold deletionEntry
  simp only [mem_names_of_perm perm, type.keyEntry_eq_of_perm perm]

/-- Declarations with the same entries have the same entries in normal form. -/
theorem normalized_perm (type : RecordType) (perm : first.entries.Perm second.entries) :
    (type.normalized first).Perm (type.normalized second) := by
  unfold normalized
  apply List.Perm.map
  rw [type.entries_complete, type.entries_complete, type.keyEntry_eq_of_perm perm,
    type.deletionEntry_eq_of_perm perm]
  exact (perm.append_right _).append_right _

end RecordType

namespace Schema

variable {record : String} {fields others : List Field}

/-- The type found for a declared name does not depend on the order of fields. -/
theorem typeOf?_eq_of_perm (perm : fields.Perm others)
    (nodup : (fields.map Field.declaredName).Nodup) : typeOf? fields = typeOf? others := by
  funext name
  exact congrArg (Option.map Field.type) (find?_key_eq_of_perm perm nodup name)

/-- Entries in another order resolve to the same fields in that order. -/
theorem Resolves.exists_of_perm {entries reordered : List (String × Normalized)}
    (resolves : Resolves record entries fields) (perm : entries.Perm reordered) :
    ∃ others, Resolves record reordered others ∧ fields.Perm others := by
  obtain ⟨others, resolved, permuted⟩ := List.perm_comp_forall₂ perm.symm resolves
  exact ⟨others, resolved, permuted.symm⟩

/-- Entries in another order are read as the same settings in that order, also with the fields in
sight in another order. -/
theorem Reads.exists_of_perm {entries reordered : List (Setting × Normalized)}
    {settings : List (Setting × SettingValue)} (reads : Reads record fields entries settings)
    (perm : entries.Perm reordered) (same : typeOf? fields = typeOf? others) :
    ∃ otherSettings, Reads record others reordered otherSettings ∧
      settings.Perm otherSettings := by
  obtain ⟨otherSettings, read, permuted⟩ := List.perm_comp_forall₂ perm.symm reads
  refine ⟨otherSettings, ?_, permuted.symm⟩
  unfold Reads
  rw [← same]
  exact read

/-- The value of a setting, if it is declared. -/
def setting? (schema : Schema) (setting : Setting) : Option SettingValue :=
  (schema.settings.find? fun entry => entry.1 = setting).map Prod.snd

/-- No setting of an assembled schema is set twice. -/
theorem nodup_settings {type : RecordType} {schema : Schema}
    (assembled : assemble type = .ok schema) : (schema.settings.map Prod.fst).Nodup := by
  obtain ⟨declaration, declared⟩ := exists_declared_of_assemble assembled
  obtain ⟨-, -, -, reads⟩ := (assemble_eq_ok_iff declared).mp assembled
  rw [reads.map_fst]
  exact nodup_settingEntries (type.nodup_normalized declaration)

/-- The two schemas differ in the order of their parts only. -/
structure Reordered (schema other : Schema) : Prop where
  record : schema.record = other.record
  normalized : schema.normalized.Perm other.normalized
  fields : schema.fields.Perm other.fields
  settings : schema.settings.Perm other.settings

end Schema

variable {type : RecordType} {schema : Schema}

/-- A declaration whose entries are reordered is assembled to the same schema but for the order. -/
theorem exists_assemble_of_perm (perm : first.entries.Perm second.entries)
    (assembled : assemble (type.declaring first) = .ok schema) :
    ∃ other, assemble (type.declaring second) = .ok other ∧ schema.Reordered other := by
  have declaredFirst : (type.declaring first).declared = .ok first := rfl
  have declaredSecond : (type.declaring second).declared = .ok second := rfl
  have entries : ((type.declaring first).normalized first).Perm
      ((type.declaring second).normalized second) := type.normalized_perm perm
  obtain ⟨record, normalized, resolves, reads⟩ :=
    (assemble_eq_ok_iff declaredFirst).mp assembled
  have nodup : (schema.fields.map Field.declaredName).Nodup := by
    rw [resolves.map_declaredName]
    exact Schema.nodup_fieldEntries ((type.declaring first).nodup_normalized first)
  obtain ⟨fields, resolved, fieldsPerm⟩ := resolves.exists_of_perm (entries.filter _)
  have types := Schema.typeOf?_eq_of_perm fieldsPerm nodup
  obtain ⟨settings, read, settingsPerm⟩ := reads.exists_of_perm (entries.filterMap _) types
  have other : assemble (type.declaring second) =
      .ok ⟨type.name, (type.declaring second).normalized second, fields, settings⟩ :=
    (assemble_eq_ok_iff declaredSecond).mpr ⟨rfl, rfl, resolved, read⟩
  exact ⟨_, other, record, normalized ▸ entries, fieldsPerm, settingsPerm⟩

end SearchCollection
