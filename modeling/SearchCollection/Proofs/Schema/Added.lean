import SearchCollection.Proofs.Schema.Assembled

/-! # The fields that assembly adds

The two entries that a record type adds to its declaration always resolve, each to one
known field, and can be read as no setting. So in a schema that is assembled neither has the
name of a setting, and the fields of a schema are those of the declaration, then the
primary key, then the time of deletion (`exists_fields_eq_append`).
-/

namespace SearchCollection

namespace Schema

/-- The field of a primary key that is not declared. -/
def primaryKeyField (name : String) : Field :=
  ⟨name, .string, { Modifiers.default name with
    source := .computed ⟨OwnCallback.primaryKey.identity, Record.primaryKeyValue⟩ }, []⟩

/-- The field of a time of deletion that is not declared. -/
def deletionField (name : String) : Field :=
  ⟨name, .int32, { Modifiers.default name with
    name := some softDeletedName
    transform := .custom ⟨OwnCallback.deletionTime.identity, deletionTime⟩ }, [(.optional, true)]⟩

/-- The option added for the primary key resolves to its field. -/
theorem resolve_primaryKeyOption (record name : String) :
    Field.resolve record name primaryKeyOption.normalize = .ok (primaryKeyField name) :=
  rfl

/-- The option added for the time of deletion resolves to its field. -/
theorem resolve_softDeleteOption (record name : String) :
    Field.resolve record name softDeleteOption.normalize = .ok (deletionField name) :=
  rfl

/-- A function among the values is refused by the lists of characters, and two values or more by
the other settings. -/
theorem read_primaryKeyOption_ne_ok (setting : Setting) (record : String)
    (typeOf? : String → Option FieldType) (value : SettingValue) :
    setting.read record typeOf? primaryKeyOption.normalize ≠ .ok value := by
  cases setting <;> exact nofun

/-- No setting takes the option of the time of deletion. -/
theorem read_softDeleteOption_ne_ok (setting : Setting) (record : String)
    (typeOf? : String → Option FieldType) (value : SettingValue) :
    setting.read record typeOf? softDeleteOption.normalize ≠ .ok value := by
  cases setting <;> exact nofun

variable {record : String} {fields : List Field} {first second : List (String × Normalized)}

/-- Entries in two parts resolve to fields in two parts. -/
theorem Resolves.exists_append (resolves : Resolves record (first ++ second) fields) :
    ∃ before after, fields = before ++ after ∧ Resolves record first before ∧
      Resolves record second after := by
  induction first generalizing fields with
  | nil => exact ⟨[], fields, rfl, .nil, resolves⟩
  | cons entry rest ih =>
      cases resolves with
      | cons head tail =>
          obtain ⟨before, after, rfl, resolved, others⟩ := ih tail
          exact ⟨_, after, rfl, .cons head resolved, others⟩

/-- The names of the entries of an assembled schema that can be read as no setting are not those of
settings. -/
theorem Reads.not_named {settings : List (Setting × SettingValue)}
    (reads : Reads record fields (settingEntries first) settings) {entry : String × Normalized}
    (member : entry ∈ first)
    (unreadable : ∀ (setting : Setting) value,
      setting.read record (typeOf? fields) entry.2 ≠ .ok value) : ¬Setting.Named entry.1 := by
  rintro ⟨setting, same⟩
  have declares : (setting, entry.2) ∈ settingEntries first := by
    rw [mem_settingEntries, same]
    exact member
  obtain ⟨value, -, read⟩ := reads.exists_mem declares
  exact unreadable setting value read

end Schema

namespace RecordType

variable {type : RecordType} {declaration : Declaration} {schema : Schema}

def keyFields (type : RecordType) (declaration : Declaration) : List Field :=
  (type.keyEntry declaration).map fun entry => Schema.primaryKeyField entry.1

def deletionFields (type : RecordType) (declaration : Declaration) : List Field :=
  (type.deletionEntry declaration).map fun entry => Schema.deletionField entry.1

theorem option_of_mem_keyEntry {entry : String × FieldOption}
    (member : entry ∈ type.keyEntry declaration) : entry.2 = primaryKeyOption := by
  unfold keyEntry at member
  split at member
  · cases member
  · rw [List.mem_singleton.mp member]

theorem option_of_mem_deletionEntry {entry : String × FieldOption}
    (member : entry ∈ type.deletionEntry declaration) : entry.2 = softDeleteOption := by
  unfold deletionEntry at member
  split at member
  · rw [List.mem_singleton.mp member]
  · cases member

/-- Entries of one option resolve to the fields that the option resolves to. -/
theorem fields_eq_map_of_resolves {record : String} {entries : List (String × FieldOption)}
    {fields : List Field} {option : FieldOption} {fieldOf : String → Field}
    (options : ∀ entry ∈ entries, entry.2 = option)
    (resolution : ∀ name, Field.resolve record name option.normalize = .ok (fieldOf name))
    (resolves : Schema.Resolves record
      (entries.map fun entry => (entry.1, entry.2.normalize)) fields) :
    fields = entries.map fun entry => fieldOf entry.1 := by
  induction entries generalizing fields with
  | nil =>
      cases resolves
      rfl
  | cons entry rest ih =>
      cases resolves with
      | cons head tail =>
          obtain ⟨same, others⟩ := List.forall_mem_cons.mp options
          dsimp only at head
          rw [same, resolution] at head
          rw [List.map_cons, ← ih others tail, Except.ok.inj head]

/-- The entries that assembly adds have no name of a setting. -/
theorem not_named_of_mem_added (declared : type.declared = .ok declaration)
    (assembled : assemble type = .ok schema) {entry : String × FieldOption}
    (member : entry ∈ type.keyEntry declaration ++ type.deletionEntry declaration) :
    ¬Setting.Named entry.1 := by
  obtain ⟨-, -, -, reads⟩ := (assemble_eq_ok_iff declared).mp assembled
  have complete : (entry.1, entry.2.normalize) ∈ type.normalized declaration := by
    unfold normalized
    rw [type.entries_complete, List.append_assoc]
    exact List.mem_map.mpr ⟨entry, List.mem_append_right _ member, rfl⟩
  apply reads.not_named complete
  intro setting value
  rcases List.mem_append.mp member with key | deletion
  · rw [option_of_mem_keyEntry key]
    exact Schema.read_primaryKeyOption_ne_ok setting _ _ value
  · rw [option_of_mem_deletionEntry deletion]
    exact Schema.read_softDeleteOption_ne_ok setting _ _ value

end RecordType

variable {type : RecordType} {declaration : Declaration} {schema : Schema}

/-- The fields of a schema are those of the declaration and behind them those that assembly
adds. -/
theorem exists_fields_eq_append (declared : type.declared = .ok declaration)
    (assembled : assemble type = .ok schema) :
    ∃ own, schema.fields = own ++ type.keyFields declaration ++ type.deletionFields declaration ∧
      Schema.Resolves type.name (Schema.fieldEntries
        (declaration.entries.map fun entry => (entry.1, entry.2.normalize))) own := by
  let normal (entry : String × FieldOption) : String × Normalized := (entry.1, entry.2.normalize)
  have declares (added : List (String × FieldOption))
      (among : added ⊆ type.keyEntry declaration ++ type.deletionEntry declaration) :
      Schema.fieldEntries (added.map normal) = added.map normal := by
    rw [Schema.fieldEntries_eq_filter, List.filter_eq_self]
    intro entry member
    obtain ⟨original, originalMember, rfl⟩ := List.mem_map.mp member
    exact decide_eq_true (RecordType.not_named_of_mem_added declared assembled (among originalMember))
  have keys := declares _ (List.subset_append_left _ _)
  have deletions := declares _ (List.subset_append_right _ _)
  have entries : Schema.fieldEntries (type.normalized declaration) =
      Schema.fieldEntries (declaration.entries.map normal) ++
        (type.keyEntry declaration).map normal ++ (type.deletionEntry declaration).map normal := by
    rw [← keys, ← deletions]
    unfold RecordType.normalized Schema.fieldEntries
    rw [type.entries_complete, List.map_append, List.map_append, List.filter_append,
      List.filter_append]
  obtain ⟨-, -, resolves, -⟩ := (assemble_eq_ok_iff declared).mp assembled
  rw [entries] at resolves
  obtain ⟨front, deletion, split, resolvesFront, resolvesDeletion⟩ := resolves.exists_append
  obtain ⟨own, key, frontSplit, resolvesOwn, resolvesKey⟩ := resolvesFront.exists_append
  have keySame : key = type.keyFields declaration :=
    RecordType.fields_eq_map_of_resolves (fun _ => RecordType.option_of_mem_keyEntry)
      (Schema.resolve_primaryKeyOption type.name) resolvesKey
  have deletionSame : deletion = type.deletionFields declaration :=
    RecordType.fields_eq_map_of_resolves (fun _ => RecordType.option_of_mem_deletionEntry)
      (Schema.resolve_softDeleteOption type.name) resolvesDeletion
  refine ⟨own, ?_, resolvesOwn⟩
  rw [split, frontSplit, keySame, deletionSame]

end SearchCollection
