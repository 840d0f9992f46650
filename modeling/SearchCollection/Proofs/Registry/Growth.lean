import SearchCollection.Proofs.Registry.Lookups

/-! # How lookups let a registry grow

Lookups under one name count, and keep fields and schemas under keys that have
none (`Registry.Growth`). Nothing that is kept is replaced or dropped by them, and
nothing under another name is touched. What a lookup hands out is kept afterwards,
and the fields of a schema are kept before the schema is.
-/

namespace SearchCollection

namespace Schema

variable {record : String} {entries : List (String × Normalized)} {fields : List Field}
  {schema : Schema}

/-- A schema has the record type and the fields that it was assembled from. -/
theorem parts_of_ofFields (assembled : ofFields record entries fields = .ok schema) :
    schema.record = record ∧ schema.fields = fields := by
  unfold ofFields at assembled
  cases read : readSettings record fields (settingEntries entries) with
  | error fault =>
      rw [read] at assembled
      cases assembled
  | ok settings =>
      rw [read] at assembled
      cases assembled
      exact ⟨rfl, rfl⟩

/-- A schema has the fields that it was assembled from. -/
theorem fields_of_ofFields (assembled : ofFields record entries fields = .ok schema) :
    schema.fields = fields :=
  (parts_of_ofFields assembled).2

end Schema

namespace Registry

variable {name other : String} {registry grown last : Registry}

/-- What lookups under a name do to a registry, one thing after the other. A schema is kept with
fields that are kept under the name already. -/
inductive Growth (name : String) (registry : Registry) : Registry → Prop where
  | refl : Growth name registry registry
  | counted {grown last : Registry} (growth : Growth name registry grown)
      (schemas : last.schemas = grown.schemas) (fields : last.fields = grown.fields)
      (stamp : last.nextStamp = grown.nextStamp) : Growth name registry last
  | field {grown : Registry} (growth : Growth name registry grown) {key : String}
      {option : Normalized} {resolved : Field} (missing : grown.fields.get? (name, key) = none)
      (resolution : Field.resolve name key option = .ok resolved) :
      Growth name registry (grown.keepField name key resolved)
  | schema {grown : Registry} (growth : Growth name registry grown) {schema : Schema}
      {fields : List (Shared Field)} (missing : grown.schemas.get? name = none)
      (kept : ∀ shared ∈ fields, ∃ key, grown.fields.get? (name, key) = some shared)
      (same : schema.fields = fields.map Shared.content) :
      Growth name registry (grown.keepSchema name schema fields)

namespace Growth

/-- What lookups do one after the other is what they do together. -/
theorem trans (first : Growth name registry grown) (second : Growth name grown last) :
    Growth name registry last := by
  induction second with
  | refl => exact first
  | counted _ schemas fields stamp ih => exact ih.counted schemas fields stamp
  | field _ missing resolution ih => exact ih.field missing resolution
  | schema _ missing kept same ih => exact ih.schema missing kept same

/-- A field that is kept stays, and stays the same object. -/
theorem field_kept (growth : Growth name registry grown) {key : String × String}
    {shared : Shared Field} (found : registry.fields.get? key = some shared) :
    grown.fields.get? key = some shared := by
  induction growth with
  | refl => exact found
  | counted _ _ fields _ ih => rw [fields, ih]
  | field _ missing _ ih => exact Cache.get?_add_of_get? ih
  | schema _ _ _ _ ih => exact ih

/-- Lookups keep every schema that is kept already. -/
theorem schema_kept (growth : Growth name registry grown) {key : String}
    {shared : Shared KeptSchema} (found : registry.schemas.get? key = some shared) :
    grown.schemas.get? key = some shared := by
  induction growth with
  | refl => exact found
  | counted _ schemas _ _ ih => rw [schemas, ih]
  | field _ _ _ ih => exact ih
  | schema _ _ _ _ ih => exact Cache.get?_add_of_get? ih

/-- Lookups under one name do not change what schema is kept under another. -/
theorem schema_eq_of_ne (growth : Growth name registry grown) (different : other ≠ name) :
    grown.schemas.get? other = registry.schemas.get? other := by
  induction growth with
  | refl => rfl
  | counted _ schemas _ _ ih => rw [schemas, ih]
  | field _ _ _ ih => exact ih
  | schema _ _ _ _ ih => rw [keepSchema, Cache.get?_add, if_neg different, ih]

/-- Lookups under one name do not change what fields are kept under another. -/
theorem field_eq_of_ne (growth : Growth name registry grown) (different : other ≠ name)
    (key : String) : grown.fields.get? (other, key) = registry.fields.get? (other, key) := by
  induction growth with
  | refl => rfl
  | counted _ _ fields _ ih => rw [fields, ih]
  | field _ _ _ ih =>
      rw [keepField, Cache.get?_add, if_neg fun same => different (congrArg Prod.fst same), ih]
  | schema _ _ _ _ ih => exact ih

/-- Stamps are given out in ascending order. -/
theorem nextStamp_le (growth : Growth name registry grown) :
    registry.nextStamp ≤ grown.nextStamp := by
  induction growth with
  | refl => exact Nat.le_refl _
  | counted _ _ _ stamp ih => rw [stamp]; exact ih
  | field _ _ _ ih => exact Nat.le_succ_of_le ih
  | schema _ _ _ _ ih => exact Nat.le_succ_of_le ih

end Growth

/-- The lookup of a field does no more than keep that field and count. -/
theorem resolveField_growth (registry : Registry) (record name : String) (option : Normalized) :
    Growth record registry (registry.resolveField record name option).registry := by
  have lookup := registry.resolveField_lookup record name option
  generalize registry.resolveField record name option = outcome at lookup ⊢
  cases lookup with
  | kept found => exact Growth.refl.counted rfl rfl rfl
  | refused missing refused => exact Growth.refl.counted rfl rfl rfl
  | resolved missing resolved =>
      have missed : Growth record registry registry.fieldMiss := Growth.refl.counted rfl rfl rfl
      exact missed.field missing resolved

/-- A field that is handed out is kept afterwards. -/
theorem get?_of_resolveField {record name : String} {option : Normalized} {shared : Shared Field}
    (answered : (registry.resolveField record name option).answer = .ok shared) :
    (registry.resolveField record name option).registry.fields.get? (record, name) =
      some shared := by
  have lookup := registry.resolveField_lookup record name option
  generalize registry.resolveField record name option = outcome at lookup answered ⊢
  cases lookup with
  | kept found =>
      cases answered
      exact found
  | refused missing refused => cases answered
  | resolved missing resolved =>
      cases answered
      change (registry.fields.add (record, name) (registry.sharedField _)).get? (record, name) = _
      rw [Cache.get?_add, if_pos rfl, missing, Option.getD_none]

/-- A field that is kept is handed out, whatever option is asked for. -/
theorem resolveField_of_get? {record name : String} {shared : Shared Field}
    (found : registry.fields.get? (record, name) = some shared) (option : Normalized) :
    (registry.resolveField record name option).answer = .ok shared := by
  rw [resolveField, found]

/-- The lookup of a field leaves what is kept under other keys. -/
theorem resolveField_elsewhere (registry : Registry) (record name : String) (option : Normalized)
    {key : String × String} (different : key ≠ (record, name)) :
    (registry.resolveField record name option).registry.fields.get? key =
      registry.fields.get? key := by
  have lookup := registry.resolveField_lookup record name option
  generalize registry.resolveField record name option = outcome at lookup ⊢
  cases lookup with
  | kept found => rfl
  | refused missing refused => rfl
  | resolved missing resolved => exact (Cache.get?_add _ _ _ _).trans (if_neg different)

/-- A lookup of a field has nothing to do with schemas. -/
theorem resolveField_schemas (registry : Registry) (record name : String) (option : Normalized) :
    (registry.resolveField record name option).registry.schemas = registry.schemas ∧
      (registry.resolveField record name option).registry.schemaCounters =
        registry.schemaCounters := by
  have lookup := registry.resolveField_lookup record name option
  generalize registry.resolveField record name option = outcome at lookup ⊢
  cases lookup with
  | kept found => exact ⟨rfl, rfl⟩
  | refused missing refused => exact ⟨rfl, rfl⟩
  | resolved missing resolved => exact ⟨rfl, rfl⟩

/-- Lookups of fields leave the cache of schemas and its counters as they are. -/
theorem resolveFields_schemas (registry : Registry) (record : String)
    (entries : List (String × Normalized)) :
    (registry.resolveFields record entries).registry.schemas = registry.schemas ∧
      (registry.resolveFields record entries).registry.schemaCounters =
        registry.schemaCounters := by
  induction entries generalizing registry with
  | nil => exact ⟨rfl, rfl⟩
  | cons entry rest ih =>
      obtain ⟨headSchemas, headCounters⟩ := registry.resolveField_schemas record entry.1 entry.2
      rw [resolveFields]
      cases (registry.resolveField record entry.1 entry.2).answer with
      | error fault => exact ⟨headSchemas, headCounters⟩
      | ok shared =>
          obtain ⟨restSchemas, restCounters⟩ := ih
            (registry.resolveField record entry.1 entry.2).registry
          exact ⟨restSchemas.trans headSchemas, restCounters.trans headCounters⟩

/-- Lookups of fields do no more than keep fields under the one name and count. -/
theorem resolveFields_growth (registry : Registry) (record : String)
    (entries : List (String × Normalized)) :
    Growth record registry (registry.resolveFields record entries).registry := by
  induction entries generalizing registry with
  | nil => exact .refl
  | cons entry rest ih =>
      have head := registry.resolveField_growth record entry.1 entry.2
      rw [resolveFields]
      cases (registry.resolveField record entry.1 entry.2).answer with
      | error fault => exact head
      | ok shared => exact head.trans (ih _)

/-- The fields that are handed out together are all kept afterwards. -/
theorem get?_of_resolveFields {record : String} {entries : List (String × Normalized)}
    {fields : List (Shared Field)}
    (answered : (registry.resolveFields record entries).answer = .ok fields) :
    ∀ shared ∈ fields, ∃ key,
      (registry.resolveFields record entries).registry.fields.get? (record, key) =
        some shared := by
  induction entries generalizing registry fields with
  | nil =>
      cases answered
      intro shared member
      exact (List.not_mem_nil member).elim
  | cons entry rest ih =>
      rw [resolveFields] at answered ⊢
      cases head : (registry.resolveField record entry.1 entry.2).answer with
      | error fault =>
          rw [head] at answered
          cases answered
      | ok first =>
          simp only [head] at answered ⊢
          cases tail : ((registry.resolveField record entry.1 entry.2).registry.resolveFields
              record rest).answer with
          | error fault =>
              rw [tail] at answered
              cases answered
          | ok others =>
              rw [tail] at answered
              cases answered
              have growth := (registry.resolveField record entry.1 entry.2).registry
                |>.resolveFields_growth record rest
              refine List.forall_mem_cons.mpr ⟨⟨entry.1, ?_⟩, ih tail⟩
              exact growth.field_kept (get?_of_resolveField head)

variable {type : RecordType}

/-- The lookups of the fields of a declaration do no more than keep fields under its name and
count. -/
theorem lookUpFields_growth (registry : Registry) (type : RecordType) (declaration : Declaration) :
    Growth type.name registry (registry.lookUpFields type declaration).registry := by
  have missed : Growth type.name registry registry.schemaMiss := Growth.refl.counted rfl rfl rfl
  exact missed.trans (resolveFields_growth _ _ _)

/-- The lookups of the fields of a declaration keep no schema. -/
theorem schemas_lookUpFields (registry : Registry) (type : RecordType)
    (declaration : Declaration) :
    (registry.lookUpFields type declaration).registry.schemas = registry.schemas :=
  (resolveFields_schemas registry.schemaMiss type.name _).1

/-- The lookup of a schema does no more than keep it and its fields under its name and count. -/
theorem resolve_growth (registry : Registry) (type : RecordType) :
    Growth type.name registry (registry.resolve type).registry := by
  have lookup := registry.resolve_lookup type
  generalize registry.resolve type = outcome at lookup ⊢
  cases lookup with
  | kept found => exact Growth.refl.counted rfl rfl rfl
  | undeclared missing undeclared => exact Growth.refl.counted rfl rfl rfl
  | fieldRefused missing declared refused => exact registry.lookUpFields_growth type _
  | settingRefused missing declared resolved refused => exact registry.lookUpFields_growth type _
  | assembled missing declared resolved assembled =>
      refine (registry.lookUpFields_growth type _).schema ?_ (get?_of_resolveFields resolved)
        (Schema.fields_of_ofFields assembled)
      rw [schemas_lookUpFields, missing]

/-- A schema that is kept is handed out, whatever the declaration says. -/
theorem resolve_of_get? {shared : Shared KeptSchema}
    (found : registry.schemas.get? type.name = some shared) :
    (registry.resolve type).answer = .ok shared := by
  rw [resolve, found]

/-- A schema that is handed out is kept afterwards. -/
theorem get?_of_resolve {shared : Shared KeptSchema}
    (answered : (registry.resolve type).answer = .ok shared) :
    (registry.resolve type).registry.schemas.get? type.name = some shared := by
  have lookup := registry.resolve_lookup type
  generalize registry.resolve type = outcome at lookup answered ⊢
  cases lookup with
  | kept found =>
      cases answered
      exact found
  | undeclared missing undeclared => cases answered
  | fieldRefused missing declared refused => cases answered
  | settingRefused missing declared resolved refused => cases answered
  | assembled missing declared resolved assembled =>
      cases answered
      rw [keepSchema, Cache.get?_add, if_pos rfl, schemas_lookUpFields, missing, Option.getD_none]

end Registry

end SearchCollection
