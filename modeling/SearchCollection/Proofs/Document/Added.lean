import SearchCollection.Proofs.Document.Names
import SearchCollection.Proofs.Schema.Added

/-! # The fields that assembly adds deliver

The two fields that assembly adds stand behind the declared ones, so what a document has
under their names is theirs (`document_added`), whatever other fields are renamed to these
names and whatever attributes have them.
-/

namespace SearchCollection

/-- What is cast to a text is one. -/
theorem FieldType.exists_cast_string (value : Value) :
    ∃ text, FieldType.string.cast value = .text text := by
  cases value <;> exact ⟨_, rfl⟩

namespace Schema

/-- The field of the primary key holds the primary key as a string. -/
theorem castValue_primaryKeyField (name : String) (record : Record) :
    (primaryKeyField name).castValue record = FieldType.string.cast record.primaryKeyValue := by
  change FieldType.string.cast (ValueTransform.identity.apply .string record.primaryKeyValue) = _
  cases record.primaryKeyValue <;> rfl

/-- An instant is cast to its seconds whether its seconds are taken before or not. -/
theorem castValue_deletionField (name : String) (record : Record) :
    (deletionField name).castValue record = FieldType.int32.cast (record.read name) := by
  change FieldType.int32.cast (deletionTime (record.read name)) = _
  cases record.read name <;> rfl

variable {type : RecordType} {declaration : Declaration} {schema : Schema}

/-- Only the time of deletion stands behind the primary key, under a name of its own. -/
theorem get?_document_primaryKey (declared : type.declared = .ok declaration)
    (assembled : assemble type = .ok schema) (added : type.primaryKey ∉ declaration.names)
    (apart : type.primaryKey ≠ softDeletedName) (record : Record) :
    (schema.document record).get? type.primaryKey =
      some (FieldType.string.cast record.primaryKeyValue).toJson := by
  obtain ⟨own, fields, -⟩ := exists_fields_eq_append declared assembled
  have key : type.keyFields declaration = [primaryKeyField type.primaryKey] := by
    rw [RecordType.keyFields, RecordType.keyEntry, if_neg added]
    rfl
  rw [key, List.append_assoc, List.singleton_append] at fields
  have last : ∀ later ∈ type.deletionFields declaration, later.outputName ≠ type.primaryKey := by
    intro later member same
    obtain ⟨entry, -, rfl⟩ := List.mem_map.mp member
    exact apart same.symm
  rw [← castValue_primaryKeyField type.primaryKey record]
  exact get?_document_of_last fields last record

/-- The field of the deletion stands last where it is added. -/
theorem fields_eq_append_deletionField (declared : type.declared = .ok declaration)
    (assembled : assemble type = .ok schema) (wanted : type.softDelete = true)
    (added : type.deletedAt ∉ declaration.names) (apart : type.deletedAt ≠ type.primaryKey) :
    ∃ before, schema.fields = before ++ [deletionField type.deletedAt] := by
  obtain ⟨own, fields, -⟩ := exists_fields_eq_append declared assembled
  have notKey : type.deletedAt ∉ (type.keyEntry declaration).map Prod.fst := by
    unfold RecordType.keyEntry
    split
    · exact List.not_mem_nil
    · exact fun member => apart (List.mem_singleton.mp member)
  have deletion : type.deletionFields declaration = [deletionField type.deletedAt] := by
    rw [RecordType.deletionFields, RecordType.deletionEntry, if_pos ⟨wanted, added, notKey⟩]
    rfl
  rw [deletion] at fields
  exact ⟨_, fields⟩

/-- **The fields that assembly adds deliver.** If the primary key is not declared, and is not called
what the time of deletion is called, it stands in each document as the text of its value, which is
empty where there is none. If the time of deletion is wanted, not declared and not the primary
key, it stands in each document under its own name as an integer: an instant as its seconds,
any other value as it is cast, and null where there is none. Its attribute does not show unless a
field goes by the name of the attribute. -/
theorem document_added (type : RecordType) (declaration : Declaration) (schema : Schema)
    (record : Record) (declared : type.declared = .ok declaration)
    (assembled : assemble type = .ok schema) :
    (type.primaryKey ∉ declaration.names → type.primaryKey ≠ softDeletedName →
      ∃ text, FieldType.string.cast record.primaryKeyValue = .text text ∧
        (schema.document record).get? type.primaryKey = some (.string text) ∧
        (record.primaryKeyValue = .null → text = "")) ∧
    (type.softDelete = true → type.deletedAt ∉ declaration.names →
      type.deletedAt ≠ type.primaryKey →
      (schema.document record).get? softDeletedName =
        some (FieldType.int32.cast (record.read type.deletedAt)).toJson ∧
      (record.read type.deletedAt = .null →
        (schema.document record).get? softDeletedName = some .null) ∧
      (∀ plain : AttributeRecord, record = plain.toRecord →
        plain.attributes.get? type.deletedAt = none →
        (schema.document record).get? softDeletedName = some .null) ∧
      (∀ instant, record.read type.deletedAt = .instant instant →
        (schema.document record).get? softDeletedName =
          some (.number (.integer instant.seconds))) ∧
      (type.deletedAt ∈ (schema.document record).map Prod.fst ↔
        ∃ field ∈ schema.fields, field.outputName = type.deletedAt)) := by
  constructor
  · intro added apart
    obtain ⟨text, cast⟩ := FieldType.exists_cast_string record.primaryKeyValue
    refine ⟨text, cast, ?_, ?_⟩
    · rw [get?_document_primaryKey declared assembled added apart, cast, Value.toJson]
    · intro missing
      rw [missing] at cast
      cases cast
      rfl
  · intro wanted added apart
    obtain ⟨before, fields⟩ :=
      fields_eq_append_deletionField declared assembled wanted added apart
    have found : (schema.document record).get? softDeletedName =
        some (FieldType.int32.cast (record.read type.deletedAt)).toJson := by
      rw [← castValue_deletionField]
      exact get?_document_of_last fields (fun _ later => (List.not_mem_nil later).elim) record
    have missing (null : record.read type.deletedAt = .null) :
        (schema.document record).get? softDeletedName = some .null := by
      rw [found, null]
      rfl
    refine ⟨found, missing, ?_, ?_, ?_⟩
    · rintro plain rfl absent
      apply missing
      change (plain.attributes.get? type.deletedAt).getD .null = .null
      rw [absent, Option.getD_none]
    · intro instant read
      rw [found, read]
      change some (Json.ofInt64 instant.toInt64) = _
      rw [Json.ofInt64, instant.toInt_toInt64]
    · rw [mem_keys_document, or_iff_left]
      rintro ⟨-, free⟩
      have member : deletionField type.deletedAt ∈ schema.fields := by
        rw [fields]
        exact List.mem_append_right _ List.mem_cons_self
      exact free _ member rfl

/-- Parcels have fields under the names of both fields that are added. -/
def parcelDeclaration : Declaration :=
  .ofList [("label", .tokens "string|name:id"), ("state", .tokens "bool|name:__soft_deleted"),
    ("__soft_deleted", .tokens "string")]

def parcel : RecordType where
  name := "Parcel"
  declared := .ok parcelDeclaration
  softDelete := true

/-- The time at which a parcel was deleted. -/
def parcelDeletion : Instant :=
  ⟨1700000000, 0, by decide, by decide, by decide⟩

/-- A deleted parcel, with attributes under the names of both fields that are added. -/
def deletedParcel : Record where
  read name := if name = "deleted_at" then .instant parcelDeletion else .text "other"
  primaryKeyValue := .int 7
  attributes := [("__soft_deleted", .text "other"), ("deleted_at", .instant parcelDeletion),
    ("id", .text "other")]

/-- A parcel's document has the primary key and the time of deletion in the fields added, whatever
its attributes of these names say. -/
theorem document_added_parcel : ∃ schema, assemble parcel = .ok schema ∧
    (schema.document deletedParcel).get? "id" = some (.string "7") ∧
    (schema.document deletedParcel).get? "__soft_deleted" =
      some (.number (.integer 1700000000)) ∧
    "deleted_at" ∉ (schema.document deletedParcel).map Prod.fst := by
  have computed : (assemble parcel).map (fun schema => schema.fields.map Field.outputName) =
      .ok ["id", "__soft_deleted", "__soft_deleted", "id", "__soft_deleted"] := rfl
  obtain ⟨schema, assembled, names⟩ := exists_of_map_eq_ok computed
  obtain ⟨key, deletion⟩ := document_added parcel parcelDeclaration schema deletedParcel rfl
    assembled
  obtain ⟨text, cast, stands, -⟩ := key (by decide) (by decide)
  obtain ⟨-, -, -, seconds, shows⟩ := deletion rfl (by decide) (by decide)
  refine ⟨schema, assembled, ?_, seconds _ rfl, ?_⟩
  · cases cast
    exact stands
  · intro present
    obtain ⟨field, member, same⟩ := shows.mp present
    have among : parcel.deletedAt ∈ schema.fields.map Field.outputName :=
      List.mem_map.mpr ⟨field, member, same⟩
    rw [names] at among
    exact absurd among (by decide)

end Schema

end SearchCollection
