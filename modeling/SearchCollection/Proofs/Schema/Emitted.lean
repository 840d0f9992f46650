import SearchCollection.Proofs.Field.Descriptor
import SearchCollection.Proofs.Schema.Order

/-! # What the search engine is told

The collection schema is one document, whose members and those of its descriptors are written one
after the other without a look at their keys. No key comes twice all the same: the members of a
descriptor have keys of their own (`Field.keysOnce_descriptor_of_ofMap`), and settings are
distinct. So the document and its form in key order have the same members
(`Schema.emitted_exact`).
-/

namespace SearchCollection

/-- The value of a setting is emitted as a simple tree. -/
theorem SettingValue.simple_toJson (value : SettingValue) : value.toJson.Simple := by
  cases value with
  | characters texts => exact .strings texts
  | field name => exact .string name
  | switch value => exact .bool value

namespace Schema

variable {type : RecordType} {schema : Schema}

/-- No object in a descriptor of a resolved field has a key twice. -/
theorem Resolves.keysOnce_descriptor {record : String} {entries : List (String × Normalized)}
    {fields : List Field} (resolves : Resolves record entries fields) :
    ∀ field ∈ fields, field.descriptor.toJson.KeysOnce := by
  induction resolves with
  | nil => exact fun _ member => (List.not_mem_nil member).elim
  | cons head _ ih =>
      refine List.forall_mem_cons.mpr ⟨?_, ih⟩
      exact Field.keysOnce_descriptor_of_ofMap (Field.resolve_eq_ok_iff.mp head)

/-- No object in an assembled collection schema has a key twice. -/
theorem keysOnce_document (assembled : assemble type = .ok schema) :
    schema.collectionSchema.document.KeysOnce := by
  obtain ⟨declaration, declared⟩ := exists_declared_of_assemble assembled
  obtain ⟨-, -, resolves, -⟩ := (assemble_eq_ok_iff declared).mp assembled
  have foreign (setting : Setting) : setting.name ≠ "fields" := by cases setting <;> decide
  have names : (schema.settings.map fun entry => entry.1.name).Nodup := by
    have mapped := (nodup_settings assembled).map Setting.name_injective
    rwa [List.map_map] at mapped
  refine .object ?_ ?_
  · rw [List.map_cons, List.map_map, List.nodup_cons]
    refine ⟨?_, names⟩
    intro listed
    obtain ⟨entry, -, same⟩ := List.mem_map.mp listed
    exact foreign entry.1 same
  · refine List.forall_mem_cons.mpr ⟨.array ?_, ?_⟩
    · intro item among
      obtain ⟨descriptor, told, rfl⟩ := List.mem_map.mp among
      obtain ⟨field, member, rfl⟩ := List.mem_map.mp told
      exact resolves.keysOnce_descriptor field member
    · intro member among
      obtain ⟨entry, -, rfl⟩ := List.mem_map.mp among
      exact entry.2.simple_toJson.keysOnce

end Schema

/-- A collection schema is made of texts, Booleans, lists and objects. -/
theorem CollectionSchema.plain_document (schema : CollectionSchema) : schema.document.Plain := by
  refine .object (List.forall_mem_cons.mpr ⟨.array ?_, ?_⟩)
  · intro item among
    obtain ⟨descriptor, -, rfl⟩ := List.mem_map.mp among
    exact .object fun member told => (descriptor.simple_of_mem_members told).plain
  · intro member among
    obtain ⟨entry, -, rfl⟩ := List.mem_map.mp among
    exact entry.2.simple_toJson.plain

namespace Schema

/-- **The collection schema is one document.** No object of it has a key twice, so its form in key
order, which is built without fail, has the same members. It has one descriptor of each field in
the order of the completed declaration, and each tells what the entries of the field's option
declare. -/
theorem emitted_exact {type : RecordType} {schema : Schema}
    (assembled : assemble type = .ok schema) :
    schema.collectionSchema.document.KeysOnce ∧
    schema.collectionSchema.document.Reordered schema.collectionSchema.toJson ∧
    (∀ build, Json.Builds build →
      build schema.collectionSchema.document = some schema.collectionSchema.toJson) ∧
    ∃ declaration descriptors, type.declared = .ok declaration ∧
      schema.collectionSchema.document =
        .object (("fields", .array (descriptors.map .object)) ::
          schema.settings.map fun entry => (entry.1.name, entry.2.toJson)) ∧
      List.Forall₂ (fun entry members => Field.Describes entry.1 entry.2.entries members)
        (fieldEntries (type.normalized declaration)) descriptors := by
  have once := keysOnce_document assembled
  refine ⟨once, Json.reordered_sorted once,
    fun build builds => builds.eq_sorted schema.collectionSchema.plain_document, ?_⟩
  obtain ⟨declaration, declared⟩ := exists_declared_of_assemble assembled
  obtain ⟨-, -, resolves, -⟩ := (assemble_eq_ok_iff declared).mp assembled
  refine ⟨declaration, schema.fields.map fun field => field.descriptor.members, declared, ?_, ?_⟩
  · simp only [CollectionSchema.document, collectionSchema, List.map_map]
    rfl
  · rw [List.forall₂_map_right_iff]
    refine resolves.imp fun entry field resolved => ?_
    exact Field.describes_of_ofMap (Field.resolve_eq_ok_iff.mp resolved)

/-- Notes have their title under another name and cut into words at hyphens. -/
def note : RecordType where
  name := "Note"
  declared := .ok (.ofList
    [("title", .list [.positional (.text "string"), .keyed "name" (.text "headline"),
        .keyed "token_separators" (.text "-"), .positional (.text "searchable"),
        .keyed "sort" (.bool false)]),
      ("token_separators", .tokens "@"), ("default_sorting_field", .tokens "rank"),
      ("rank", .tokens "int32|facet")])

/-- The collection schema of a note has every key once, and sorting is all that building it
changes. -/
theorem emitted_exact_note :
    ∃ schema, assemble note = .ok schema ∧ schema.collectionSchema.document.KeysOnce ∧
      some schema.collectionSchema.document.sorted = some schema.collectionSchema.toJson := by
  obtain ⟨schema, assembled⟩ : ∃ schema, assemble note = .ok schema :=
    exists_eq_ok_of_isOk (by decide)
  obtain ⟨once, -, built, -⟩ := emitted_exact assembled
  exact ⟨schema, assembled, once, built _ Json.builds_sorted⟩

end Schema

end SearchCollection
