import Mathlib.Logic.Basic
import SearchCollection.Proofs.Field.Passes
import SearchCollection.Proofs.Keys
import SearchCollection.Proofs.Schema.Entries

/-! # What a declaration is assembled to

The fields of a schema are the resolved entries without the name of a setting,
and its settings the others, each in the order of the completed declaration
(`assemble_eq_ok_iff`). Assembly fails with the fault of the first field at fault
or, when all fields resolve, with that of the first setting at fault
(`assemble_eq_error_iff`). `assemble_structure` gathers what is known of the
schema of a declaration.
-/

namespace SearchCollection

namespace Schema

variable {record : String} {entries : List (String × Normalized)} {fields : List Field}

/-- The fields are what the entries resolve to, in order. -/
def Resolves (record : String) (entries : List (String × Normalized)) (fields : List Field) :
    Prop :=
  List.Forall₂ (fun entry field => Field.resolve record entry.1 entry.2 = .ok field) entries fields

/-- The settings are what the entries are read as, in order, with the given fields in sight. -/
def Reads (record : String) (fields : List Field) (entries : List (Setting × Normalized))
    (settings : List (Setting × SettingValue)) : Prop :=
  List.Forall₂ (fun entry setting => setting.1 = entry.1 ∧
    entry.1.read record (typeOf? fields) entry.2 = .ok setting.2) entries settings

theorem resolveFields_eq_mapM (record : String) (entries : List (String × Normalized)) :
    resolveFields record entries =
      entries.mapM fun entry => Field.resolve record entry.1 entry.2 := by
  induction entries with
  | nil => rfl
  | cons entry rest ih => rw [resolveFields, ih, List.mapM_cons]

/-- The fields found are what the entries resolve to. -/
theorem resolveFields_eq_ok_iff :
    resolveFields record entries = .ok fields ↔ Resolves record entries fields := by
  rw [resolveFields_eq_mapM, mapM_eq_ok_iff, Resolves]

/-- The fault of the fields is that of the first entry that does not resolve. -/
theorem resolveFields_eq_error_iff {fault : Fault} :
    resolveFields record entries = .error fault ↔
      FirstFault (fun entry => Field.resolve record entry.1 entry.2) entries fault := by
  rw [resolveFields_eq_mapM, mapM_eq_error_iff]

/-- The value that an entry is read as, with its setting. -/
def readEntry (record : String) (fields : List Field) (entry : Setting × Normalized) :
    Except Fault (Setting × SettingValue) :=
  (entry.1.read record (typeOf? fields) entry.2).map fun value => (entry.1, value)

theorem readSettings_eq_mapM (record : String) (fields : List Field)
    (entries : List (Setting × Normalized)) :
    readSettings record fields entries = entries.mapM (readEntry record fields) := by
  induction entries with
  | nil => rfl
  | cons entry rest ih =>
      rw [readSettings, ih, List.mapM_cons, readEntry]
      cases entry.1.read record (typeOf? fields) entry.2 <;> rfl

/-- The settings found are what the entries are read as. -/
theorem readSettings_eq_ok_iff {entries : List (Setting × Normalized)}
    {settings : List (Setting × SettingValue)} :
    readSettings record fields entries = .ok settings ↔ Reads record fields entries settings := by
  rw [readSettings_eq_mapM, mapM_eq_ok_iff, Reads]
  have pointwise (entry : Setting × Normalized) (setting : Setting × SettingValue) :
      readEntry record fields entry = .ok setting ↔
        setting.1 = entry.1 ∧ entry.1.read record (typeOf? fields) entry.2 = .ok setting.2 := by
    obtain ⟨named, value⟩ := setting
    unfold readEntry
    cases entry.1.read record (typeOf? fields) entry.2 with
    | error fault => simp [Except.map]
    | ok read => simp [Except.map, eq_comm]
  simp only [pointwise]

/-- The fault of the settings is that of the first entry that cannot be read. -/
theorem readSettings_eq_error_iff {entries : List (Setting × Normalized)} {fault : Fault} :
    readSettings record fields entries = .error fault ↔
      FirstFault (fun entry => entry.1.read record (typeOf? fields) entry.2) entries fault := by
  rw [readSettings_eq_mapM, mapM_eq_error_iff]
  have passes (entry : Setting × Normalized) :
      (∃ result, readEntry record fields entry = .ok result) ↔
        ∃ value, entry.1.read record (typeOf? fields) entry.2 = .ok value := by
    unfold readEntry
    cases entry.1.read record (typeOf? fields) entry.2 <;> simp [Except.map]
  have fails (entry : Setting × Normalized) :
      readEntry record fields entry = .error fault ↔
        entry.1.read record (typeOf? fields) entry.2 = .error fault := by
    unfold readEntry
    cases entry.1.read record (typeOf? fields) entry.2 <;> simp [Except.map]
  simp only [FirstFault, passes, fails]

/-- The fields stand under the names of their entries. -/
theorem Resolves.map_declaredName (resolves : Resolves record entries fields) :
    fields.map Field.declaredName = entries.map Prod.fst := by
  induction resolves with
  | nil => rfl
  | cons head _ ih => rw [List.map_cons, List.map_cons, ih, Field.declaredName_of_resolve head]

/-- No two fields stand under one name where no two entries do. -/
theorem Resolves.nodup (resolves : Resolves record (fieldEntries entries) fields)
    (nodup : (entries.map Prod.fst).Nodup) : (fields.map Field.declaredName).Nodup := by
  rw [resolves.map_declaredName]
  exact nodup_fieldEntries nodup

theorem Reads.map_fst {entries : List (Setting × Normalized)}
    {settings : List (Setting × SettingValue)} (reads : Reads record fields entries settings) :
    settings.map Prod.fst = entries.map Prod.fst := by
  induction reads with
  | nil => rfl
  | cons head _ ih => rw [List.map_cons, List.map_cons, ih, head.1]

/-- Entries can be read exactly when each of them can. -/
theorem exists_reads_iff {entries : List (Setting × Normalized)} :
    (∃ settings, Reads record fields entries settings) ↔
      ∀ entry ∈ entries, ∃ value, entry.1.read record (typeOf? fields) entry.2 = .ok value := by
  constructor
  · rintro ⟨settings, reads⟩
    induction reads with
    | nil => exact fun _ member => (List.not_mem_nil member).elim
    | cons head _ ih => exact List.forall_mem_cons.mpr ⟨⟨_, head.2⟩, ih⟩
  · intro readable
    induction entries with
    | nil => exact ⟨[], .nil⟩
    | cons entry rest ih =>
        obtain ⟨first, others⟩ := List.forall_mem_cons.mp readable
        obtain ⟨value, read⟩ := first
        obtain ⟨settings, reads⟩ := ih others
        exact ⟨(entry.1, value) :: settings, .cons ⟨rfl, read⟩ reads⟩

/-- An entry that is read stands among the settings with its value. -/
theorem Reads.exists_mem {entries : List (Setting × Normalized)}
    {settings : List (Setting × SettingValue)} (reads : Reads record fields entries settings)
    {entry : Setting × Normalized} (member : entry ∈ entries) :
    ∃ value, (entry.1, value) ∈ settings ∧
      entry.1.read record (typeOf? fields) entry.2 = .ok value := by
  induction reads with
  | nil => exact (List.not_mem_nil member).elim
  | @cons first setting _ _ head _ ih =>
      rcases List.mem_cons.mp member with rfl | later
      · exact ⟨setting.2, List.mem_cons.mpr (.inl (Prod.ext head.1.symm rfl)), head.2⟩
      · obtain ⟨value, found, read⟩ := ih later
        exact ⟨value, List.mem_cons_of_mem setting found, read⟩

/-- The type under a declared name is that of the one field of the name, wherever it stands. -/
theorem typeOf?_eq_some_iff (nodup : (fields.map Field.declaredName).Nodup) {name : String}
    {type : FieldType} :
    typeOf? fields name = some type ↔
      ∃ field ∈ fields, field.declaredName = name ∧ field.type = type := by
  rw [typeOf?, Option.map_eq_some_iff]
  simp only [find?_key_eq_some_iff nodup, and_assoc]

end Schema

variable {type : RecordType} {declaration : Declaration} {schema : Schema} {fault : Fault}

/-- Assembly gives exactly the schema whose fields and settings are the two parts of the
completed declaration, resolved and read in order. -/
theorem assemble_eq_ok_iff (declared : type.declared = .ok declaration) :
    assemble type = .ok schema ↔
      schema.record = type.name ∧ schema.normalized = type.normalized declaration ∧
      Schema.Resolves type.name (Schema.fieldEntries (type.normalized declaration))
        schema.fields ∧
      Schema.Reads type.name schema.fields
        (Schema.settingEntries (type.normalized declaration)) schema.settings := by
  obtain ⟨record, normalized, fields, settings⟩ := schema
  rw [← Schema.resolveFields_eq_ok_iff, ← Schema.readSettings_eq_ok_iff]
  simp only [assemble, declared, Schema.ofFields, bind, Except.bind, pure, Except.pure]
  cases Schema.resolveFields type.name (Schema.fieldEntries (type.normalized declaration)) with
  | error fault => simp
  | ok resolved =>
      simp only [Except.ok.injEq]
      constructor
      · intro assembled
        split at assembled
        · cases assembled
        · next read =>
            cases assembled
            exact ⟨rfl, rfl, rfl, read⟩
      · rintro ⟨rfl, rfl, rfl, read⟩
        rw [read]

/-- Assembly fails with the first fault of a field, or else with the first fault of a setting. -/
theorem assemble_eq_error_iff (declared : type.declared = .ok declaration) :
    assemble type = .error fault ↔
      FirstFault (fun entry => Field.resolve type.name entry.1 entry.2)
        (Schema.fieldEntries (type.normalized declaration)) fault ∨
      ∃ fields,
        Schema.Resolves type.name (Schema.fieldEntries (type.normalized declaration)) fields ∧
        FirstFault (fun entry => entry.1.read type.name (Schema.typeOf? fields) entry.2)
          (Schema.settingEntries (type.normalized declaration)) fault := by
  simp only [← Schema.resolveFields_eq_error_iff, ← Schema.resolveFields_eq_ok_iff,
    ← Schema.readSettings_eq_error_iff]
  simp only [assemble, declared, Schema.ofFields, bind, Except.bind, pure, Except.pure]
  cases Schema.resolveFields type.name (Schema.fieldEntries (type.normalized declaration)) with
  | error other => simp
  | ok resolved =>
      simp only [reduceCtorEq, false_or, Except.ok.injEq, exists_eq_left']
      cases Schema.readSettings type.name resolved
        (Schema.settingEntries (type.normalized declaration)) <;> simp

/-- A declaration is assembled exactly when its fields resolve and, with these in sight, its
settings can be read. -/
theorem exists_assemble_iff (declared : type.declared = .ok declaration) :
    (∃ schema, assemble type = .ok schema) ↔
      ∃ fields,
        Schema.Resolves type.name (Schema.fieldEntries (type.normalized declaration)) fields ∧
        ∀ entry ∈ Schema.settingEntries (type.normalized declaration),
          ∃ value, entry.1.read type.name (Schema.typeOf? fields) entry.2 = .ok value := by
  simp only [assemble_eq_ok_iff declared, ← Schema.exists_reads_iff]
  constructor
  · rintro ⟨schema, -, -, resolves, reads⟩
    exact ⟨schema.fields, resolves, schema.settings, reads⟩
  · rintro ⟨fields, resolves, settings, reads⟩
    exact ⟨⟨type.name, type.normalized declaration, fields, settings⟩, rfl, rfl, resolves, reads⟩

/-- A record type that is assembled has a declaration. -/
theorem exists_declared_of_assemble (assembled : assemble type = .ok schema) :
    ∃ declaration, type.declared = .ok declaration := by
  cases declared : type.declared with
  | error fault => simp [assemble, declared, bind, Except.bind] at assembled
  | ok declaration => exact ⟨declaration, rfl⟩

/-- No field of an assembled schema has the name of a setting. -/
theorem not_named_of_mem_fields (assembled : assemble type = .ok schema) {field : Field}
    (member : field ∈ schema.fields) : ¬Setting.Named field.declaredName := by
  obtain ⟨declaration, declared⟩ := exists_declared_of_assemble assembled
  obtain ⟨-, -, resolves, -⟩ := (assemble_eq_ok_iff declared).mp assembled
  have name := List.mem_map_of_mem (f := Field.declaredName) member
  rw [resolves.map_declaredName, List.mem_map] at name
  obtain ⟨entry, entryMember, same⟩ := name
  exact same ▸ (Schema.mem_fieldEntries.mp entryMember).2

/-- Every entry declares one field or one setting, and not both. -/
theorem declares_one (declared : type.declared = .ok declaration)
    (assembled : assemble type = .ok schema) {entry : String × Normalized}
    (member : entry ∈ schema.normalized) :
    Xor (∃ field ∈ schema.fields, field.declaredName = entry.1)
      (∃ setting ∈ schema.settings, setting.1.name = entry.1) := by
  obtain ⟨-, normalized, resolves, reads⟩ := (assemble_eq_ok_iff declared).mp assembled
  rw [normalized] at member
  have fieldNames : (∃ field ∈ schema.fields, field.declaredName = entry.1) ↔
      entry.1 ∈ (Schema.fieldEntries (type.normalized declaration)).map Prod.fst := by
    rw [← resolves.map_declaredName, List.mem_map]
  have settingNames : (∃ setting ∈ schema.settings, setting.1.name = entry.1) →
      Setting.Named entry.1 := by
    rintro ⟨setting, -, same⟩
    exact ⟨setting.1, same⟩
  by_cases named : Setting.Named entry.1
  · refine .inr ⟨?_, fun field => ?_⟩
    · obtain ⟨setting, same⟩ := named
      have declares : (setting, entry.2) ∈ Schema.settingEntries (type.normalized declaration) := by
        rw [Schema.mem_settingEntries, same]
        exact member
      obtain ⟨value, found, -⟩ := reads.exists_mem declares
      exact ⟨(setting, value), found, same⟩
    · obtain ⟨found, foundMember, same⟩ := List.mem_map.mp (fieldNames.mp field)
      exact (Schema.mem_fieldEntries.mp foundMember).2 (same ▸ named)
  · refine .inl ⟨fieldNames.mpr ?_, fun setting => named (settingNames setting)⟩
    exact List.mem_map_of_mem (Schema.mem_fieldEntries.mpr ⟨member, named⟩)

/-- **The structure of an assembled schema.** The entries are those of the declaration, the
primary key and the time of deletion, the last two only where their names are new. The fields are
the entries without the name of a setting, resolved, and the settings the others, read with all
fields in sight; each entry declares one of them. Assembly fails exactly when a field or, with all
fields resolved, a setting is at fault, and the first such fault is the one reported. -/
theorem assemble_structure (type : RecordType) (declaration : Declaration)
    (declared : type.declared = .ok declaration) :
    type.normalized declaration =
      (declaration.entries ++ type.keyEntry declaration ++ type.deletionEntry declaration).map
        (fun entry => (entry.1, entry.2.normalize)) ∧
    Schema.fieldEntries (type.normalized declaration) =
      (type.normalized declaration).filter (fun entry => ¬Setting.Named entry.1) ∧
    (Schema.settingEntries (type.normalized declaration)).map
        (fun entry => (entry.1.name, entry.2)) =
      (type.normalized declaration).filter (fun entry => Setting.Named entry.1) ∧
    (∀ schema, assemble type = .ok schema ↔
      schema.record = type.name ∧ schema.normalized = type.normalized declaration ∧
      Schema.Resolves type.name (Schema.fieldEntries (type.normalized declaration))
        schema.fields ∧
      Schema.Reads type.name schema.fields
        (Schema.settingEntries (type.normalized declaration)) schema.settings) ∧
    (∀ schema, assemble type = .ok schema →
      (schema.normalized.map Prod.fst).Nodup ∧ (schema.fields.map Field.declaredName).Nodup ∧
      (schema.settings.map Prod.fst).Nodup ∧
      ∀ entry ∈ schema.normalized,
        Xor (∃ field ∈ schema.fields, field.declaredName = entry.1)
          (∃ setting ∈ schema.settings, setting.1.name = entry.1)) ∧
    (∀ fault, assemble type = .error fault ↔
      FirstFault (fun entry => Field.resolve type.name entry.1 entry.2)
        (Schema.fieldEntries (type.normalized declaration)) fault ∨
      ∃ fields,
        Schema.Resolves type.name (Schema.fieldEntries (type.normalized declaration)) fields ∧
        FirstFault (fun entry => entry.1.read type.name (Schema.typeOf? fields) entry.2)
          (Schema.settingEntries (type.normalized declaration)) fault) ∧
    ((∃ fault, assemble type = .error fault) ↔
      (∃ entry ∈ Schema.fieldEntries (type.normalized declaration),
        ∃ fault, Field.resolve type.name entry.1 entry.2 = .error fault) ∨
      ∃ fields,
        Schema.Resolves type.name (Schema.fieldEntries (type.normalized declaration)) fields ∧
        ∃ entry ∈ Schema.settingEntries (type.normalized declaration),
          ∃ fault, entry.1.read type.name (Schema.typeOf? fields) entry.2 = .error fault) ∧
    ∀ fields,
      Schema.Resolves type.name (Schema.fieldEntries (type.normalized declaration)) fields →
      ∀ name fieldType, Schema.typeOf? fields name = some fieldType ↔
        ∃ field ∈ fields, field.declaredName = name ∧ field.type = fieldType := by
  have namesNodup := type.nodup_normalized declaration
  have fieldNodup {fields : List Field} (resolves : Schema.Resolves type.name
      (Schema.fieldEntries (type.normalized declaration)) fields) :
      (fields.map Field.declaredName).Nodup := by
    rw [resolves.map_declaredName]
    exact Schema.nodup_fieldEntries namesNodup
  refine ⟨?_, Schema.fieldEntries_eq_filter _, Schema.map_settingEntries _,
    fun schema => assemble_eq_ok_iff declared, fun schema assembled => ?_,
    fun fault => assemble_eq_error_iff declared, ?_, ?_⟩
  · rw [RecordType.normalized, type.entries_complete]
  · obtain ⟨-, normalized, resolves, reads⟩ := (assemble_eq_ok_iff declared).mp assembled
    refine ⟨normalized ▸ namesNodup, fieldNodup resolves, ?_,
      fun entry => declares_one declared assembled⟩
    rw [reads.map_fst]
    exact Schema.nodup_settingEntries namesNodup
  · simp only [assemble_eq_error_iff declared, exists_or, exists_firstFault_iff]
    refine or_congr_right ?_
    rw [exists_comm]
    simp only [exists_and_left, exists_firstFault_iff]
  · intro fields resolves name fieldType
    exact Schema.typeOf?_eq_some_iff (fieldNodup resolves)

/-- Articles sort by a field that is declared behind the setting, and give the time of deletion
the name of the primary key. -/
def articleDeclaration : Declaration :=
  .ofList [("headline", .tokens "string|name:title"), ("title", .tokens "string|searchable"),
    ("default_sorting_field", .tokens "rank"), ("rank", .tokens "int32")]

def article : RecordType where
  name := "Article"
  declared := .ok articleDeclaration
  softDelete := true
  deletedAt := "id"

/-- The entries of an article are those declared, and behind them the primary key alone. -/
theorem assemble_structure_article :
    article.declared = .ok articleDeclaration ∧
      (article.normalized articleDeclaration).map Prod.fst =
        ["headline", "title", "default_sorting_field", "rank", "id"] := by
  refine ⟨rfl, ?_⟩
  rw [(assemble_structure article articleDeclaration rfl).1]
  decide

theorem exists_assemble_article : ∃ schema, assemble article = .ok schema := by
  have succeeds : (assemble article).isOk = true := by decide
  cases assembled : assemble article with
  | error fault =>
      rw [assembled] at succeeds
      cases succeeds
  | ok schema => exact ⟨schema, rfl⟩

end SearchCollection
