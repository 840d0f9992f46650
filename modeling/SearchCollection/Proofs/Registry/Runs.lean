import SearchCollection.Proofs.Registry.Growth
import SearchCollection.Proofs.Registry.Requests

/-! # Runs of a registry

A request either looks something up under one name, and the registry grows, or it
drops what is kept under names. What growing and dropping preserve therefore holds
along every run (`Registry.perform_preserves`, `Registry.after_preserves`), and what
is kept under a name stays until the name is dropped.
-/

namespace SearchCollection

namespace Request

/-- The record type whose schema a request looks up. -/
def type? : Request → Option RecordType
  | .resolve type | .collectionSchema type | .queryBy type | .warm type | .lint type
  | .document type _ => some type
  | .resolveField _ _ _ | .invalidate _ | .clear => none

/-- The name that a request looks something up under. -/
def subject? : Request → Option String
  | .resolveField record _ _ => some record
  | request => request.type?.map RecordType.name

/-- The request drops what is kept under the name. -/
def Drops (name : String) : Request → Prop
  | .invalidate record => record = name
  | .clear => True
  | _ => False

instance (name : String) : DecidablePred (Drops name)
  | .invalidate record => inferInstanceAs (Decidable (record = name))
  | .clear => .isTrue trivial
  | .resolve _ | .resolveField _ _ _ | .collectionSchema _ | .queryBy _ | .warm _ | .lint _
  | .document _ _ => .isFalse id

variable {request : Request} {name : String}

/-- A request about a record type looks things up under its name. -/
theorem subject?_of_type? {type : RecordType} (asked : request.type? = some type) :
    request.subject? = some type.name := by
  cases request with
  | resolveField record key option => cases asked
  | _ => exact congrArg (Option.map RecordType.name) asked

/-- A request looks something up or drops something. -/
theorem subject_or_drops (request : Request) :
    (∃ name, request.subject? = some name) ∨ (∃ name, request = .invalidate name) ∨
      request = .clear := by
  cases request with
  | invalidate record => exact .inr (.inl ⟨record, rfl⟩)
  | clear => exact .inr (.inr rfl)
  | _ => exact .inl ⟨_, rfl⟩

end Request

namespace Registry

variable {request : Request} {requests : List Request} {name : String} {registry : Registry}

/-- The registry after requests that are made one after the other. -/
def after (registry : Registry) : List Request → Registry
  | [] => registry
  | request :: rest => (registry.perform request).registry.after rest

/-- A run of requests can be cut in two anywhere. -/
theorem after_append (registry : Registry) (first second : List Request) :
    registry.after (first ++ second) = (registry.after first).after second := by
  induction first generalizing registry with
  | nil => rfl
  | cons request rest ih => exact ih _

/-- What every request preserves is preserved by a run. -/
theorem after_preserves {motive : Registry → Prop}
    (step : ∀ request ∈ requests, ∀ registry, motive registry →
      motive (registry.perform request).registry)
    (start : motive registry) : motive (registry.after requests) := by
  induction requests generalizing registry with
  | nil => exact start
  | cons request rest ih =>
      obtain ⟨head, tail⟩ := List.forall_mem_cons.mp step
      exact ih tail (head registry start)

/-- A request for a record type looks its schema up, and once more at most if it is found. -/
theorem perform_of_type? (registry : Registry) {type : RecordType}
    (asked : request.type? = some type) :
    (registry.perform request).registry = (registry.resolve type).registry ∨
      (registry.resolve type).answer.isOk ∧
        (registry.perform request).registry =
          ((registry.resolve type).registry.resolve type).registry := by
  cases request with
  | lint other =>
      cases asked
      change (registry.lint type).registry = _ ∨ _ ∧ (registry.lint type).registry = _
      rw [lint]
      cases (registry.resolve type).answer with
      | error fault => exact .inl rfl
      | ok shared => exact .inr ⟨rfl, rfl⟩
  | resolveField record key option => cases asked
  | invalidate record => cases asked
  | clear => cases asked
  | _ =>
      cases asked
      exact .inl rfl

/-- A request about a record type first looks up the schema, and the rest of it are lookups under
the same name. -/
theorem perform_growth_of_type? {type : RecordType} (asked : request.type? = some type) :
    Growth type.name (registry.resolve type).registry (registry.perform request).registry := by
  rcases registry.perform_of_type? asked with once | ⟨-, twice⟩
  · rw [once]
    exact .refl
  · rw [twice]
    exact resolve_growth _ type

/-- A request whose lookup of a schema is refused does nothing more. -/
theorem perform_of_refused {type : RecordType} {fault : Fault} (asked : request.type? = some type)
    (refused : (registry.resolve type).answer = .error fault) :
    (registry.perform request).registry = (registry.resolve type).registry := by
  rcases registry.perform_of_type? asked with once | ⟨found, -⟩
  · exact once
  · rw [refused] at found
    cases found

/-- A request that looks something up under a name does nothing but lookups under that name. -/
theorem perform_growth (asked : request.subject? = some name) :
    Growth name registry (registry.perform request).registry := by
  cases typed : request.type? with
  | some type =>
      rw [Request.subject?_of_type? typed] at asked
      cases asked
      exact (registry.resolve_growth type).trans (perform_growth_of_type? typed)
  | none =>
      cases request with
      | resolveField record key option =>
          obtain rfl := Option.some.inj asked
          exact resolveField_growth registry _ key option
      | invalidate record => cases asked
      | clear => cases asked
      | _ => cases typed

/-- What growing and dropping preserve is preserved by every request. -/
theorem perform_preserves {motive : Registry → Prop}
    (grows : ∀ {name registry grown}, Growth name registry grown → motive registry → motive grown)
    (drops : ∀ {registry} name, motive registry → motive (registry.invalidate name).registry)
    (clears : ∀ {registry}, motive registry → motive registry.clear.registry)
    (request : Request) (registry : Registry) (start : motive registry) :
    motive (registry.perform request).registry := by
  rcases request.subject_or_drops with ⟨name, asked⟩ | ⟨name, rfl⟩ | rfl
  · exact grows (perform_growth asked) start
  · exact drops name start
  · exact clears start

/-- Dropping a name leaves the schemas under other names. -/
theorem schema_invalidate_of_ne {other : String} (registry : Registry) (different : other ≠ name) :
    (registry.invalidate name).registry.schemas.get? other = registry.schemas.get? other := by
  change (registry.schemas.drop (· = name)).get? other = _
  rw [Cache.get?_drop, if_neg fun same => different (of_decide_eq_true same)]

/-- Dropping a name leaves the fields under other names. -/
theorem field_invalidate_of_ne {other : String} (registry : Registry) (different : other ≠ name)
    (key : String) :
    (registry.invalidate name).registry.fields.get? (other, key) =
      registry.fields.get? (other, key) := by
  change (registry.fields.drop (·.1 = name)).get? (other, key) = _
  rw [Cache.get?_drop, if_neg fun same => different (of_decide_eq_true same)]

/-- A schema stays kept, as the same object, until its name is dropped. -/
theorem perform_schema_kept (undropped : ¬request.Drops name) {shared : Shared KeptSchema}
    (found : registry.schemas.get? name = some shared) :
    (registry.perform request).registry.schemas.get? name = some shared := by
  rcases request.subject_or_drops with ⟨other, asked⟩ | ⟨other, rfl⟩ | rfl
  · exact (perform_growth asked).schema_kept found
  · exact (registry.schema_invalidate_of_ne fun same => undropped same.symm).trans found
  · exact (undropped trivial).elim

/-- A name that has no schema after a request which does not drop it had none before. -/
theorem schema_missing_of_perform (undropped : ¬request.Drops name)
    (missing : (registry.perform request).registry.schemas.get? name = none) :
    registry.schemas.get? name = none := by
  cases kept : registry.schemas.get? name with
  | none => rfl
  | some schema =>
      rw [perform_schema_kept undropped kept] at missing
      cases missing

/-- A kept field stays for as long as its name is not dropped. -/
theorem perform_field_kept (undropped : ¬request.Drops name) {key : String}
    {shared : Shared Field} (found : registry.fields.get? (name, key) = some shared) :
    (registry.perform request).registry.fields.get? (name, key) = some shared := by
  rcases request.subject_or_drops with ⟨other, asked⟩ | ⟨other, rfl⟩ | rfl
  · exact (perform_growth asked).field_kept found
  · exact (registry.field_invalidate_of_ne (fun same => undropped same.symm) key).trans found
  · exact (undropped trivial).elim

/-- A kept schema stays through every run that does not drop its name. -/
theorem after_schema_kept (undropped : ∀ request ∈ requests, ¬request.Drops name)
    {shared : Shared KeptSchema} (found : registry.schemas.get? name = some shared) :
    (registry.after requests).schemas.get? name = some shared :=
  after_preserves (motive := fun last => last.schemas.get? name = some shared)
    (fun request member _ => perform_schema_kept (undropped request member)) found

/-- A kept field stays through every run that does not drop its name. -/
theorem after_field_kept (undropped : ∀ request ∈ requests, ¬request.Drops name) {key : String}
    {shared : Shared Field} (found : registry.fields.get? (name, key) = some shared) :
    (registry.after requests).fields.get? (name, key) = some shared :=
  after_preserves (motive := fun last => last.fields.get? (name, key) = some shared)
    (fun request member _ => perform_field_kept (undropped request member)) found

/-- Nothing is kept under a name or dropped from it by requests about others. -/
theorem perform_elsewhere (undropped : ¬request.Drops name)
    (elsewhere : request.subject? ≠ some name) :
    (registry.perform request).registry.schemas.get? name = registry.schemas.get? name ∧
      ∀ key, (registry.perform request).registry.fields.get? (name, key) =
        registry.fields.get? (name, key) := by
  rcases request.subject_or_drops with ⟨other, asked⟩ | ⟨other, rfl⟩ | rfl
  · have different : name ≠ other := fun same => elsewhere (same ▸ asked)
    have growth : Growth other registry _ := perform_growth asked
    exact ⟨growth.schema_eq_of_ne different, growth.field_eq_of_ne different⟩
  · have different : name ≠ other := fun same => undropped same.symm
    exact ⟨registry.schema_invalidate_of_ne different, registry.field_invalidate_of_ne different⟩
  · exact (undropped trivial).elim

/-- Nothing is kept under the name. -/
structure Vacant (name : String) (registry : Registry) : Prop where
  schema : registry.schemas.get? name = none
  field (key : String) : registry.fields.get? (name, key) = none

/-- An empty registry keeps nothing under any name. -/
theorem vacant_empty (name : String) : Vacant name empty where
  schema := rfl
  field _ := rfl

/-- After a name is dropped nothing is kept under it. -/
theorem vacant_invalidate (registry : Registry) (name : String) :
    Vacant name (registry.invalidate name).registry where
  schema := by
    change (registry.schemas.drop (· = name)).get? name = none
    rw [Cache.get?_drop, if_pos (decide_eq_true rfl)]
  field key := by
    change (registry.fields.drop (·.1 = name)).get? (name, key) = none
    rw [Cache.get?_drop, if_pos (decide_eq_true rfl)]

/-- After everything is dropped nothing is kept under any name. -/
theorem vacant_clear (registry : Registry) (name : String) :
    Vacant name registry.clear.registry where
  schema := rfl
  field _ := rfl

/-- Nothing is kept under a name that has just been dropped. -/
theorem vacant_of_drops (drops : request.Drops name) :
    Vacant name (registry.perform request).registry := by
  cases request with
  | invalidate record =>
      cases drops
      exact registry.vacant_invalidate name
  | clear => exact registry.vacant_clear name
  | _ => exact drops.elim

end Registry

/-- A volume has a title that is a text. -/
def volume : RecordType where
  name := "Volume"
  declared := .ok { entries := [("title", .tokens "string|searchable")], nodup := by simp }

/-- A reprint goes by the name of the volume, with another declaration. -/
def reprint : RecordType where
  name := "Volume"
  declared := .ok { entries := [("title", .tokens "string[]")], nodup := by simp }

end SearchCollection
