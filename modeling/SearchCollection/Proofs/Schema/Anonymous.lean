import SearchCollection.Document
import SearchCollection.Schema.QueryBy
import SearchCollection.Proofs.Field.Anonymous
import SearchCollection.Proofs.Schema.Entries
import SearchCollection.Proofs.Traversal

/-! # Assembling a schema without identities

Record types that are the same but for the identities of functions are assembled
to schemas that are the same in this sense, or refused with the same fault
(`assemble_congr`). What a schema is asked for, its collection, its default list
of query fields and its documents, does not depend on identities.
-/

namespace SearchCollection

/-- The entry of a declaration without the identities of its functions. -/
def Declaration.anonymousEntry (entry : String × FieldOption) : String × FieldOption :=
  (entry.1, entry.2.anonymous)

namespace Declaration

theorem map_fst_anonymousEntry (entries : List (String × FieldOption)) :
    (entries.map anonymousEntry).map Prod.fst = entries.map Prod.fst := by
  rw [List.map_map]
  rfl

def anonymous (declaration : Declaration) : Declaration where
  entries := declaration.entries.map anonymousEntry
  nodup := by
    rw [map_fst_anonymousEntry]
    exact declaration.nodup

theorem names_anonymous (declaration : Declaration) :
    declaration.anonymous.names = declaration.names :=
  map_fst_anonymousEntry declaration.entries

end Declaration

namespace RecordType

/-- The record type without the identities of the functions in its declaration. -/
def anonymous (type : RecordType) : RecordType :=
  { type with declared := type.declared.map Declaration.anonymous }

/-- Record types that differ in the identities of functions only have one name. -/
theorem name_eq_of_anonymous_eq {first second : RecordType}
    (same : first.anonymous = second.anonymous) : first.name = second.name := by
  have names : first.anonymous.name = second.anonymous.name := by rw [same]
  exact names

end RecordType

namespace Schema

/-- The entry of a schema without the identities of its functions. -/
def anonymousEntry (entry : String × Normalized) : String × Normalized :=
  (entry.1, entry.2.anonymous)

def anonymous (schema : Schema) : Schema :=
  { schema with
    normalized := schema.normalized.map anonymousEntry
    fields := schema.fields.map Field.anonymous }

/-- The schema of entries in normal form: their fields resolved, and then their settings read. -/
def ofEntries (record : String) (entries : List (String × Normalized)) : Except Fault Schema := do
  let fields ← resolveFields record (fieldEntries entries)
  ofFields record entries fields

theorem fieldEntries_anonymous (entries : List (String × Normalized)) :
    fieldEntries (entries.map anonymousEntry) = (fieldEntries entries).map anonymousEntry := by
  unfold fieldEntries
  rw [List.filter_map]
  rfl

theorem settingEntries_anonymous (entries : List (String × Normalized)) :
    settingEntries (entries.map anonymousEntry) =
      (settingEntries entries).map fun entry => (entry.1, entry.2.anonymous) := by
  unfold settingEntries
  rw [List.filterMap_map, List.map_filterMap]
  refine List.filterMap_congr fun entry _ => ?_
  rw [Function.comp_apply, anonymousEntry]
  cases Setting.ofName? entry.1 <;> rfl

theorem typeOf?_anonymous (fields : List Field) :
    typeOf? (fields.map Field.anonymous) = typeOf? fields := by
  funext name
  unfold typeOf?
  rw [List.find?_map, Option.map_map]
  rfl

/-- Entries resolve to the same fields, or to the same fault, but for the identities of
functions. -/
theorem resolveFields_anonymous (record : String) (entries : List (String × Normalized)) :
    resolveFields record (entries.map anonymousEntry) =
      (resolveFields record entries).map (List.map Field.anonymous) := by
  induction entries with
  | nil => rfl
  | cons entry rest ih =>
      rw [List.map_cons, anonymousEntry, resolveFields, resolveFields, ih,
        Field.resolve_anonymous]
      cases Field.resolve record entry.1 entry.2 with
      | error fault => rfl
      | ok field => cases resolveFields record rest <;> rfl

end Schema

namespace Setting

theorem sortingText?_anonymous (values : List OptionValue) :
    sortingText? (values.map OptionValue.anonymous) = sortingText? values := by
  rcases values with _ | ⟨value, _ | ⟨second, rest⟩⟩
  · rfl
  · rcases value with text | value | (_ | ⟨item, _ | ⟨second, rest⟩⟩) | callback | callback
    · rfl
    · rfl
    · rfl
    · exact congrArg (fun text => some (Option.getD text "")) item.text?_anonymous
    · rfl
    · rfl
    · rfl
  · rcases value with text | value | (_ | ⟨item, _ | ⟨third, others⟩⟩) | callback | callback <;>
      rfl

/-- A setting is read without a look at the identities in its values. -/
theorem readValues_anonymous (setting : Setting) (typeOf? : String → Option FieldType)
    (values : List OptionValue) :
    setting.readValues typeOf? (values.map OptionValue.anonymous) =
      setting.readValues typeOf? values := by
  have described := OptionValue.describe_anonymous (.list values)
  have characters := OptionValue.characters?_anonymous (.list values)
  rw [OptionValue.anonymous_list] at described characters
  cases setting with
  | tokenSeparators => simp only [readValues, refuse, characters, described]
  | symbolsToIndex => simp only [readValues, refuse, characters, described]
  | defaultSortingField => simp only [readValues, sortingField, sortingText?_anonymous]
  | enableNestedFields =>
      rcases values with _ | ⟨value, _ | ⟨second, rest⟩⟩
      · rfl
      · rw [List.map_cons, List.map_nil] at described ⊢
        simp only [readValues, refuse, OptionValue.boolean?_anonymous, described]
      · rw [List.map_cons, List.map_cons] at described ⊢
        simp only [readValues, refuse, described]

/-- A setting is read alike whatever the identities of functions are. -/
theorem read_anonymous (setting : Setting) (record : String)
    (typeOf? : String → Option FieldType) (option : Normalized) :
    setting.read record typeOf? option.anonymous = setting.read record typeOf? option := by
  unfold read
  rw [Normalized.settingValues_anonymous, readValues_anonymous]

end Setting

namespace Schema

/-- All settings are read alike whatever the identities of functions are. -/
theorem readSettings_anonymous (record : String) (fields : List Field)
    (entries : List (Setting × Normalized)) :
    readSettings record (fields.map Field.anonymous)
        (entries.map fun entry => (entry.1, entry.2.anonymous)) =
      readSettings record fields entries := by
  induction entries with
  | nil => rfl
  | cons entry rest ih =>
      rw [List.map_cons, readSettings, readSettings, ih, typeOf?_anonymous,
        Setting.read_anonymous]

/-- Entries and their fields make the same schema but for the identities of functions. -/
theorem ofFields_anonymous (record : String) (entries : List (String × Normalized))
    (fields : List Field) :
    ofFields record (entries.map anonymousEntry) (fields.map Field.anonymous) =
      (ofFields record entries fields).map anonymous := by
  unfold ofFields
  rw [settingEntries_anonymous, readSettings_anonymous]
  cases readSettings record fields (settingEntries entries) <;> rfl

/-- The schema of fields that differ in identities only is the same, up to identities. -/
theorem ofFields_congr (record : String) (entries : List (String × Normalized))
    {first second : List Field}
    (same : first.map Field.anonymous = second.map Field.anonymous) :
    (ofFields record entries first).map anonymous =
      (ofFields record entries second).map anonymous := by
  rw [← ofFields_anonymous, ← ofFields_anonymous, same]

/-- Entries make the same schema, or have the same fault, but for the identities of functions. -/
theorem ofEntries_anonymous (record : String) (entries : List (String × Normalized)) :
    ofEntries record (entries.map anonymousEntry) = (ofEntries record entries).map anonymous := by
  unfold ofEntries
  rw [fieldEntries_anonymous, resolveFields_anonymous]
  cases resolveFields record (fieldEntries entries) with
  | error fault => rfl
  | ok fields => exact ofFields_anonymous record entries fields

end Schema

namespace RecordType

/-- The entries that a record type adds to a declaration depend on names alone. -/
theorem keyEntry_anonymous (type : RecordType) (declaration : Declaration) :
    type.anonymous.keyEntry declaration.anonymous = type.keyEntry declaration := by
  unfold keyEntry
  rw [Declaration.names_anonymous]
  rfl

/-- Whether the time of deletion is added has nothing to do with the identities of functions. -/
theorem deletionEntry_anonymous (type : RecordType) (declaration : Declaration) :
    type.anonymous.deletionEntry declaration.anonymous = type.deletionEntry declaration := by
  unfold deletionEntry
  rw [keyEntry_anonymous, Declaration.names_anonymous]
  rfl

/-- The entries of a record type in normal form lose the identities of their functions one by
one. -/
theorem normalized_anonymous (type : RecordType) (declaration : Declaration) :
    (type.normalized declaration).map Schema.anonymousEntry =
      (declaration.anonymous.entries ++
        (type.anonymous.keyEntry declaration.anonymous ++
          type.anonymous.deletionEntry declaration.anonymous).map Declaration.anonymousEntry).map
        fun entry => (entry.1, entry.2.normalize) := by
  have entry (named : String × FieldOption) :
      Schema.anonymousEntry (named.1, named.2.normalize) =
        ((Declaration.anonymousEntry named).1, (Declaration.anonymousEntry named).2.normalize) := by
    rw [Schema.anonymousEntry, Declaration.anonymousEntry, FieldOption.normalize_anonymous]
  rw [keyEntry_anonymous, deletionEntry_anonymous, Declaration.anonymous, ← List.map_append,
    List.map_map, normalized, entries_complete, List.map_map, List.append_assoc]
  exact List.map_congr_left fun named _ => entry named

end RecordType

/-- A record type is assembled from the entries of its declaration in normal form. -/
theorem assemble_eq_bind (type : RecordType) :
    assemble type = type.declared.bind fun declaration =>
      Schema.ofEntries type.name (type.normalized declaration) :=
  rfl

namespace RecordType

variable {first second : RecordType} {declaration other : Declaration}

/-- Record types that differ in identities only have declarations that do so, or the same fault. -/
theorem declared_congr (same : first.anonymous = second.anonymous) :
    first.declared.map Declaration.anonymous = second.declared.map Declaration.anonymous := by
  have declared : first.anonymous.declared = second.anonymous.declared := by rw [same]
  exact declared

/-- Record types that differ in the identities of functions only have entries that differ in no
more. -/
theorem normalized_congr (same : first.anonymous = second.anonymous)
    (declaredFirst : first.declared = .ok declaration)
    (declaredSecond : second.declared = .ok other) :
    (first.normalized declaration).map Schema.anonymousEntry =
      (second.normalized other).map Schema.anonymousEntry := by
  have declared := declared_congr same
  rw [declaredFirst, declaredSecond] at declared
  have declarations : declaration.anonymous = other.anonymous := Except.ok.inj declared
  rw [normalized_anonymous, normalized_anonymous, same, declarations]

end RecordType

/-- A declared record type is assembled by resolving its fields and reading its settings. -/
theorem assemble_of_declared {type : RecordType} {declaration : Declaration}
    (declared : type.declared = .ok declaration) :
    assemble type =
      (Schema.resolveFields type.name (Schema.fieldEntries (type.normalized declaration))).bind
        (Schema.ofFields type.name (type.normalized declaration)) := by
  rw [assemble_eq_bind, declared]
  rfl

/-- Record types that differ in identities only are assembled to the same, up to identities. -/
theorem assemble_congr {first second : RecordType} (same : first.anonymous = second.anonymous) :
    (assemble first).map Schema.anonymous = (assemble second).map Schema.anonymous := by
  have names := RecordType.name_eq_of_anonymous_eq same
  have declared := RecordType.declared_congr same
  rw [assemble_eq_bind, assemble_eq_bind, names]
  rcases fault_or_value_of_map_eq declared with
    ⟨fault, ofFirst, ofSecond⟩ | ⟨declaration, other, ofFirst, ofSecond, -⟩
  · rw [ofFirst, ofSecond]
    rfl
  · have entries := RecordType.normalized_congr same ofFirst ofSecond
    have assembled := congrArg (Schema.ofEntries second.name) entries
    rw [Schema.ofEntries_anonymous, Schema.ofEntries_anonymous] at assembled
    rw [ofFirst, ofSecond]
    exact assembled

namespace Schema

/-- The collection schema has no identities of functions in it. -/
theorem collectionSchema_anonymous (schema : Schema) :
    schema.anonymous.collectionSchema = schema.collectionSchema := by
  unfold collectionSchema anonymous
  rw [List.map_map]
  rfl

theorem queryNames_anonymous (record : String) (fields : List Field) :
    queryNames record (fields.map Field.anonymous) = queryNames record fields := by
  induction fields with
  | nil => rfl
  | cons field rest ih =>
      rw [List.map_cons, queryNames, queryNames, ih]
      rfl

/-- The list of query fields has nothing to do with the identities of functions. -/
theorem queryBy_anonymous (schema : Schema) : schema.anonymous.queryBy = schema.queryBy := by
  unfold queryBy
  rw [anonymous, queryNames_anonymous]

theorem field?_anonymous (schema : Schema) (declaredName : String) :
    schema.anonymous.field? declaredName = (schema.field? declaredName).map Field.anonymous := by
  unfold field? anonymous
  rw [List.find?_map]
  rfl

/-- The document of a record is the same whatever objects the functions of the schema are. -/
theorem document_anonymous (schema : Schema) (record : Record) :
    schema.anonymous.document record = schema.document record := by
  have undeclared : schema.anonymous.undeclared record = schema.undeclared record := by
    refine List.filter_congr fun entry _ => ?_
    rw [field?_anonymous, Option.isNone_map]
  have fields : (schema.anonymous.fields.map fun field =>
        (field.outputName, (field.castValue record).toJson)) =
      schema.fields.map fun field => (field.outputName, (field.castValue record).toJson) := by
    rw [anonymous, List.map_map]
    refine List.map_congr_left fun field _ => ?_
    rw [Function.comp_apply, Field.castValue_anonymous]
    rfl
  rw [document, document, undeclared, fields]

end Schema

end SearchCollection
