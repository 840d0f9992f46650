import SearchCollection.Registry.Basic

/-! # What a lookup can do

A lookup of a field finds it kept, or resolves it anew and keeps it, or fails and
keeps nothing (`Registry.FieldLookup`). A lookup of a schema finds it kept, or fails
before the fields, at one of them or at a setting, or keeps the schema of its fields
(`Registry.SchemaLookup`). Each constructor says what was found, what is answered and
which registry is left; the two functions do nothing else.
-/

namespace SearchCollection

namespace Cache

variable {κ α : Type} [DecidableEq κ] {cache : Cache κ α} {key other : κ} {value held : α}

/-- What is found after something was added was there before, or is what was added. -/
theorem get?_of_get?_add (found : (cache.add key value).get? other = some held) :
    cache.get? other = some held ∨ other = key ∧ held = value := by
  rw [get?_add] at found
  by_cases same : other = key
  · rw [if_pos same] at found
    subst same
    cases old : cache.get? other with
    | none =>
        rw [old] at found
        exact .inr ⟨rfl, (Option.some.inj found).symm⟩
    | some kept =>
        rw [old] at found
        exact .inl found
  · rw [if_neg same] at found
    exact .inl found

/-- What is found stays when something is added. -/
theorem get?_add_of_get? (found : cache.get? other = some held) :
    (cache.add key value).get? other = some held := by
  rw [get?_add]
  split
  · next same => rw [← same, found, Option.getD_some]
  · exact found

/-- What is found after others were dropped was there before. -/
theorem get?_of_get?_drop {condition : κ → Bool}
    (found : (cache.drop condition).get? key = some held) : cache.get? key = some held := by
  rw [get?_drop] at found
  split at found
  · cases found
  · exact found

end Cache

namespace Registry

def fieldHit (registry : Registry) : Registry :=
  { registry with fieldCounters := registry.fieldCounters.hit }

def fieldMiss (registry : Registry) : Registry :=
  { registry with fieldCounters := registry.fieldCounters.miss }

def schemaHit (registry : Registry) : Registry :=
  { registry with schemaCounters := registry.schemaCounters.hit }

def schemaMiss (registry : Registry) : Registry :=
  { registry with schemaCounters := registry.schemaCounters.miss }

/-- The object that a field becomes when it is kept. -/
def sharedField (registry : Registry) (field : Field) : Shared Field :=
  ⟨registry.nextStamp, field⟩

def keepField (registry : Registry) (record name : String) (field : Field) : Registry :=
  { registry with
    fields := registry.fields.add (record, name) (registry.sharedField field)
    nextStamp := registry.nextStamp + 1 }

/-- The object that a schema with the given fields becomes when it is kept. -/
def sharedSchema (registry : Registry) (schema : Schema) (fields : List (Shared Field)) :
    Shared KeptSchema :=
  ⟨registry.nextStamp, schema, fields.map Shared.stamp⟩

def keepSchema (registry : Registry) (record : String) (schema : Schema)
    (fields : List (Shared Field)) : Registry :=
  { registry with
    schemas := registry.schemas.add record (registry.sharedSchema schema fields)
    nextStamp := registry.nextStamp + 1 }

/-- The outcomes that a lookup of a field can have. -/
inductive FieldLookup (registry : Registry) (record name : String) (option : Normalized) :
    Outcome (Shared Field) → Prop where
  | kept {shared : Shared Field}
      (found : registry.fields.get? (record, name) = some shared) :
      FieldLookup registry record name option
        { answer := .ok shared, registry := registry.fieldHit }
  | refused {fault : Fault}
      (missing : registry.fields.get? (record, name) = none)
      (refused : Field.resolve record name option = .error fault) :
      FieldLookup registry record name option
        { answer := .error fault, registry := registry.fieldMiss }
  | resolved {field : Field}
      (missing : registry.fields.get? (record, name) = none)
      (resolved : Field.resolve record name option = .ok field) :
      FieldLookup registry record name option
        { answer := .ok (registry.sharedField field)
          registry := registry.fieldMiss.keepField record name field
          events := Field.resolutionEvents record option field }

/-- The lookup of a field has one of the outcomes that such a lookup can have. -/
theorem resolveField_lookup (registry : Registry) (record name : String) (option : Normalized) :
    registry.FieldLookup record name option (registry.resolveField record name option) := by
  unfold resolveField
  cases found : registry.fields.get? (record, name) with
  | some shared => exact .kept found
  | none =>
      cases resolution : Field.resolve record name option with
      | error fault => exact .refused found resolution
      | ok field => exact .resolved found resolution

/-- The lookups of the fields of a declaration, after its schema was not found. -/
def lookUpFields (registry : Registry) (type : RecordType) (declaration : Declaration) :
    Outcome (List (Shared Field)) :=
  registry.schemaMiss.resolveFields type.name
    (Schema.fieldEntries (type.normalized declaration))

/-- The outcomes that a lookup of a schema can have. -/
inductive SchemaLookup (registry : Registry) (type : RecordType) :
    Outcome (Shared KeptSchema) → Prop where
  | kept {shared : Shared KeptSchema}
      (found : registry.schemas.get? type.name = some shared) :
      SchemaLookup registry type
        { answer := .ok shared
          registry := registry.schemaHit
          events := [.schemaHit type.name] }
  | undeclared {fault : Fault}
      (missing : registry.schemas.get? type.name = none)
      (undeclared : type.declared = .error fault) :
      SchemaLookup registry type
        { answer := .error fault
          registry := registry.schemaMiss
          events := [.schemaMiss type.name]
          declarationReads := 1 }
  | fieldRefused {declaration : Declaration} {fault : Fault}
      (missing : registry.schemas.get? type.name = none)
      (declared : type.declared = .ok declaration)
      (refused : (registry.lookUpFields type declaration).answer = .error fault) :
      SchemaLookup registry type
        { answer := .error fault
          registry := (registry.lookUpFields type declaration).registry
          events := .schemaMiss type.name :: (registry.lookUpFields type declaration).events
          declarationReads := 1 }
  | settingRefused {declaration : Declaration} {fields : List (Shared Field)} {fault : Fault}
      (missing : registry.schemas.get? type.name = none)
      (declared : type.declared = .ok declaration)
      (resolved : (registry.lookUpFields type declaration).answer = .ok fields)
      (refused : Schema.ofFields type.name (type.normalized declaration)
        (fields.map Shared.content) = .error fault) :
      SchemaLookup registry type
        { answer := .error fault
          registry := (registry.lookUpFields type declaration).registry
          events := .schemaMiss type.name :: (registry.lookUpFields type declaration).events
          declarationReads := 1 }
  | assembled {declaration : Declaration} {fields : List (Shared Field)} {schema : Schema}
      (missing : registry.schemas.get? type.name = none)
      (declared : type.declared = .ok declaration)
      (resolved : (registry.lookUpFields type declaration).answer = .ok fields)
      (assembled : Schema.ofFields type.name (type.normalized declaration)
        (fields.map Shared.content) = .ok schema) :
      SchemaLookup registry type
        { answer := .ok
            ((registry.lookUpFields type declaration).registry.sharedSchema schema fields)
          registry :=
            (registry.lookUpFields type declaration).registry.keepSchema type.name schema fields
          events := .schemaMiss type.name ::
            ((registry.lookUpFields type declaration).events ++ [schema.assembledEvent])
          declarationReads := 1 }

/-- The lookup of a schema has one of the outcomes that such a lookup can have. -/
theorem resolve_lookup (registry : Registry) (type : RecordType) :
    registry.SchemaLookup type (registry.resolve type) := by
  unfold resolve
  cases found : registry.schemas.get? type.name with
  | some shared => exact .kept found
  | none =>
      cases declared : type.declared with
      | error fault => exact .undeclared found declared
      | ok declaration =>
          simp only [assemble]
          cases resolved : (registry.lookUpFields type declaration).answer with
          | error fault =>
              have lookup := SchemaLookup.fieldRefused found declared resolved
              unfold lookUpFields schemaMiss at resolved lookup
              rw [resolved]
              exact lookup
          | ok fields =>
              cases read : Schema.ofFields type.name (type.normalized declaration)
                  (fields.map Shared.content) with
              | error fault =>
                  have lookup := SchemaLookup.settingRefused found declared resolved read
                  unfold lookUpFields schemaMiss at resolved lookup
                  simp only [resolved, read]
                  exact lookup
              | ok schema =>
                  have lookup := SchemaLookup.assembled found declared resolved read
                  unfold lookUpFields schemaMiss at resolved lookup
                  simp only [resolved, read]
                  exact lookup

end Registry

end SearchCollection
