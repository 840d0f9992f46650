import SearchCollection.Proofs.Registry.Residue
import SearchCollection.Proofs.Schema.Attribution

/-! # Faults that come through a registry

A registry hands out fields that were resolved for an earlier request, maybe for
another record type of the same name. What is known of every field that a declaration
resolves to is known of every field that is kept (`Registry.Keeps`), by induction on
the requests. A fault of a request is one that its declaration has without a registry,
or concerns a field that is kept (`Registry.perform_eq_error`).
-/

namespace SearchCollection

namespace Registry

variable {states : String → Field → Prop} {registry : Registry} {type : RecordType}
  {record name : String} {option : Normalized} {fault : Fault}

/-- Kept fields, also those of kept schemas, are as is said of the fields of their record type. -/
structure Keeps (states : String → Field → Prop) (registry : Registry) : Prop where
  field {record name : String} {shared : Shared Field}
    (found : registry.fields.get? (record, name) = some shared) : states record shared.content
  schema {name : String} {shared : Shared KeptSchema}
    (found : registry.schemas.get? name = some shared) :
    shared.content.schema.record = name ∧ ∀ field ∈ shared.content.schema.fields, states name field

/-- Whatever is said of fields, it holds where none is kept. -/
theorem keeps_empty (states : String → Field → Prop) : Keeps states empty where
  field found := by cases found
  schema found := by cases found

namespace Keeps

/-- Only what the two caches keep matters. -/
theorem of_eq {other : Registry} (keeps : Keeps states registry)
    (schemas : other.schemas = registry.schemas) (fields : other.fields = registry.fields) :
    Keeps states other where
  field found := keeps.field (fields ▸ found)
  schema found := keeps.schema (schemas ▸ found)

/-- What is said of all fields still holds when a field that it is said of is kept. -/
theorem keepField (keeps : Keeps states registry) {field : Field} (stated : states record field) :
    Keeps states (registry.keepField record name field) where
  field found := by
    rcases Cache.get?_of_get?_add found with before | ⟨same, rfl⟩
    · exact keeps.field before
    · cases same
      exact stated
  schema found := keeps.schema found

/-- What is said of all fields still holds when a schema is kept under its own name with fields that
it is said of. -/
theorem keepSchema (keeps : Keeps states registry) {schema : Schema} (fields : List (Shared Field))
    (owned : schema.record = name) (stated : ∀ field ∈ schema.fields, states name field) :
    Keeps states (registry.keepSchema name schema fields) where
  field found := keeps.field found
  schema found := by
    rcases Cache.get?_of_get?_add found with before | ⟨rfl, rfl⟩
    · exact keeps.schema before
    · exact ⟨owned, stated⟩

/-- Dropping a name leaves what is said of the other fields. -/
theorem invalidate (keeps : Keeps states registry) (record : String) :
    Keeps states (registry.invalidate record).registry where
  field found := keeps.field (Cache.get?_of_get?_drop found)
  schema found := keeps.schema (Cache.get?_of_get?_drop found)

/-- Dropping everything leaves no field of which anything has to be said. -/
theorem clear (registry : Registry) : Keeps states registry.clear.registry :=
  (keeps_empty states).of_eq rfl rfl

/-- The lookup of a field adds at most what its option resolves to. -/
theorem resolveField (keeps : Keeps states registry)
    (stated : ∀ field, Field.resolve record name option = .ok field → states record field) :
    Keeps states (registry.resolveField record name option).registry := by
  have lookup := registry.resolveField_lookup record name option
  generalize registry.resolveField record name option = outcome at lookup ⊢
  cases lookup with
  | kept found => exact keeps.of_eq rfl rfl
  | refused missing refused => exact keeps.of_eq rfl rfl
  | resolved missing resolved =>
      have missed : Keeps states registry.fieldMiss := keeps.of_eq rfl rfl
      exact missed.keepField (stated _ resolved)

/-- What is said of all fields still holds after the lookups of a declaration's fields, if it is
said of what their options resolve to. -/
theorem resolveFields (keeps : Keeps states registry) {entries : List (String × Normalized)}
    (stated : ∀ entry ∈ entries, ∀ field, Field.resolve record entry.1 entry.2 = .ok field →
      states record field) :
    Keeps states (registry.resolveFields record entries).registry := by
  induction entries generalizing registry with
  | nil => exact keeps
  | cons entry rest ih =>
      obtain ⟨headStated, restStated⟩ := List.forall_mem_cons.mp stated
      have head := keeps.resolveField headStated
      rw [Registry.resolveFields]
      cases (registry.resolveField record entry.1 entry.2).answer with
      | error fault => exact head
      | ok shared => exact ih head restStated

/-- The lookup of a schema adds at most what the entries of its declaration resolve to. -/
theorem resolve (keeps : Keeps states registry)
    (stated : ∀ declaration, type.declared = .ok declaration →
      ∀ entry ∈ type.normalized declaration, ∀ field,
        Field.resolve type.name entry.1 entry.2 = .ok field → states type.name field) :
    Keeps states (registry.resolve type).registry := by
  have lookedUp {declaration : Declaration} (declared : type.declared = .ok declaration) :
      Keeps states (registry.lookUpFields type declaration).registry := by
    have missed : Keeps states registry.schemaMiss := keeps.of_eq rfl rfl
    refine missed.resolveFields fun entry member => ?_
    exact stated declaration declared entry (Schema.mem_fieldEntries.mp member).1
  have lookup := registry.resolve_lookup type
  generalize registry.resolve type = outcome at lookup ⊢
  cases lookup with
  | kept found => exact keeps.of_eq rfl rfl
  | undeclared missing undeclared => exact keeps.of_eq rfl rfl
  | fieldRefused missing declared refused => exact lookedUp declared
  | settingRefused missing declared resolved refused => exact lookedUp declared
  | assembled missing declared resolved assembled =>
      obtain ⟨owned, fields⟩ := Schema.parts_of_ofFields assembled
      refine (lookedUp declared).keepSchema _ owned fun field member => ?_
      -- What was handed out for the schema is kept by now.
      rw [fields] at member
      obtain ⟨shared, handed, rfl⟩ := List.mem_map.mp member
      obtain ⟨key, found⟩ := get?_of_resolveFields resolved shared handed
      exact (lookedUp declared).field found

/-- What is said of all fields still holds after any request but that for a single field, if it is
said of what the options of the record type resolve to. -/
theorem perform (keeps : Keeps states registry) {request : Request} (schemas : ¬request.AsksField)
    (stated : ∀ type, request.type? = some type → ∀ declaration, type.declared = .ok declaration →
      ∀ entry ∈ type.normalized declaration, ∀ field,
        Field.resolve type.name entry.1 entry.2 = .ok field → states type.name field) :
    Keeps states (registry.perform request).registry := by
  cases asked : request.type? with
  | some type =>
      have once := keeps.resolve (stated type asked)
      rcases registry.perform_of_type? asked with same | ⟨-, same⟩
      · exact same ▸ once
      · exact same ▸ once.resolve (stated type asked)
  | none =>
      cases request with
      | invalidate record => exact keeps.invalidate record
      | clear => exact Keeps.clear registry
      | resolveField record key option => exact (schemas trivial).elim
      | _ => cases asked

end Keeps

/-! ## Faults -/

/-- Where lookups of fields fail, one of the options does not resolve, and its fault is theirs. -/
theorem exists_refused_of_resolveFields {entries : List (String × Normalized)}
    (failed : (registry.resolveFields record entries).answer = .error fault) :
    ∃ entry ∈ entries, Field.resolve record entry.1 entry.2 = .error fault := by
  induction entries generalizing registry with
  | nil => cases failed
  | cons entry rest ih =>
      rw [resolveFields] at failed
      cases head : (registry.resolveField record entry.1 entry.2).answer with
      | error other =>
          rw [head] at failed
          cases failed
          have lookup := registry.resolveField_lookup record entry.1 entry.2
          generalize registry.resolveField record entry.1 entry.2 = outcome at lookup head
          cases lookup with
          | refused missing refused =>
              cases head
              exact ⟨entry, List.mem_cons_self, refused⟩
          | _ => cases head
      | ok shared =>
          rw [head] at failed
          obtain ⟨found, member, refused⟩ := ih (map_eq_error_iff.mp failed)
          exact ⟨found, List.mem_cons_of_mem entry member, refused⟩

/-- A lookup of a schema fails because there is no declaration, or at a field or a setting of the
declaration. -/
theorem attributed_of_resolve (failed : (registry.resolve type).answer = .error fault) :
    type.declared = .error fault ∨ ∃ declaration cause, type.declared = .ok declaration ∧
      fault = .declaration type.name cause ∧ declaration.Locates cause := by
  have lookup := registry.resolve_lookup type
  generalize registry.resolve type = outcome at lookup failed
  cases lookup with
  | kept found => cases failed
  | undeclared missing undeclared =>
      cases failed
      exact .inl undeclared
  | @fieldRefused declaration _ missing declared refused =>
      cases failed
      obtain ⟨entry, member, refused⟩ := exists_refused_of_resolveFields refused
      obtain ⟨cause, rfl, located⟩ :=
        locates_of_resolve (Schema.mem_fieldEntries.mp member).1 refused
      exact .inr ⟨declaration, cause, declared, rfl, located⟩
  | @settingRefused declaration fields _ missing declared resolved refused =>
      cases failed
      have read : Schema.readSettings type.name (fields.map Shared.content)
          (Schema.settingEntries (type.normalized declaration)) = .error fault := by
        rw [Schema.ofFields] at refused
        exact map_eq_error_iff.mp refused
      obtain ⟨before, entry, after, split, -, refused⟩ := Schema.readSettings_eq_error_iff.mp read
      have member : entry ∈ Schema.settingEntries (type.normalized declaration) := by
        rw [split]
        exact List.mem_append_right before List.mem_cons_self
      obtain ⟨cause, rfl, located⟩ := locates_of_read (Schema.mem_settingEntries.mp member) refused
      exact .inr ⟨declaration, cause, declared, rfl, located⟩
  | assembled missing declared resolved assembled => cases failed

/-- An answer that is worked on fails either by itself or in that work. -/
theorem Outcome.andThen_eq_error_iff {α β : Type} {outcome : Outcome α}
    {next : α → Except Fault β} :
    (outcome.andThen next).answer = .error fault ↔
      outcome.answer = .error fault ∨
        ∃ value, outcome.answer = .ok value ∧ next value = .error fault := by
  rw [andThen]
  cases outcome.answer <;> simp [Except.bind]

/-- A lint answers with the fault that it finds. -/
theorem exists_lint (registry : Registry) (type : RecordType) :
    ∃ problems, (registry.lint type).answer = .ok problems := by
  rw [lint]
  cases (registry.resolve type).answer with
  | error fault => exact ⟨_, rfl⟩
  | ok shared =>
      dsimp only
      cases ((registry.resolve type).registry.queryBy type).answer with
      | error fault => exact ⟨_, rfl⟩
      | ok names => exact ⟨_, rfl⟩

/-- A request for a record type fails as the lookup of its schema does, or with the query fields of
the schema that it found. -/
theorem perform_eq_error {request : Request} (asked : request.type? = some type)
    (failed : (registry.perform request).answer = .error fault) :
    (registry.resolve type).answer = .error fault ∨
      ∃ shared, (registry.resolve type).answer = .ok shared ∧
        shared.content.schema.queryBy = .error fault := by
  cases request with
  | resolve other =>
      cases asked
      rcases Outcome.andThen_eq_error_iff.mp failed with refused | ⟨shared, -, ⟨⟩⟩
      exact .inl refused
  | collectionSchema other =>
      cases asked
      rcases Outcome.andThen_eq_error_iff.mp failed with failed | ⟨collection, -, ⟨⟩⟩
      rcases Outcome.andThen_eq_error_iff.mp failed with refused | ⟨shared, -, ⟨⟩⟩
      exact .inl refused
  | document other record =>
      cases asked
      rcases Outcome.andThen_eq_error_iff.mp failed with failed | ⟨document, -, ⟨⟩⟩
      rcases Outcome.andThen_eq_error_iff.mp failed with refused | ⟨shared, -, ⟨⟩⟩
      exact .inl refused
  | queryBy other =>
      cases asked
      rcases Outcome.andThen_eq_error_iff.mp failed with failed | ⟨names, -, ⟨⟩⟩
      exact Outcome.andThen_eq_error_iff.mp failed
  | warm other =>
      cases asked
      rcases Outcome.andThen_eq_error_iff.mp failed with failed | ⟨_, -, ⟨⟩⟩
      refine (Outcome.andThen_eq_error_iff.mp failed).imp_right ?_
      rintro ⟨shared, found, unqueried⟩
      exact ⟨shared, found, map_eq_error_iff.mp unqueried⟩
  | lint other =>
      obtain ⟨problems, found⟩ := registry.exists_lint other
      rcases Outcome.andThen_eq_error_iff.mp failed with failed | ⟨problems, -, ⟨⟩⟩
      rw [found] at failed
      cases failed
  | resolveField record key option => cases asked
  | invalidate record => cases asked
  | clear => cases asked

end Registry

/-! ## Record types of one declaration for each name -/

/-- Record types of one name have one declaration, whatever their conventions are. -/
def OneDeclaration (types : RecordType → Prop) : Prop :=
  ∀ first second, types first → types second → first.name = second.name →
    first.declared = second.declared

/-- A record type of the name has a declaration, and a field that is searched by default has a name
of it. -/
def Field.Accounted (types : RecordType → Prop) (record : String) (field : Field) : Prop :=
  ∃ type declaration, types type ∧ type.name = record ∧ type.declared = .ok declaration ∧
    (field.isSearchable = true → field.declaredName ∈ declaration.names)

variable {types : RecordType → Prop} {registry : Registry} {type : RecordType} {fault : Fault}

/-- What an entry of a declaration resolves to is accounted for by the declaration. -/
theorem accounted_of_resolve (member : types type) {declaration : Declaration}
    (declared : type.declared = .ok declaration) {entry : String × Normalized}
    (entryMember : entry ∈ type.normalized declaration) {field : Field}
    (resolved : Field.resolve type.name entry.1 entry.2 = .ok field) :
    field.Accounted types type.name :=
  ⟨type, declaration, member, rfl, declared, mem_names_of_isSearchable entryMember resolved⟩

namespace Registry

/-- After any run of requests about given record types each kept field is accounted for by one of
them, unless a field was asked for by itself. -/
theorem keeps_after {requests : List Request}
    (among : ∀ request ∈ requests, ¬request.AsksField ∧
      ∀ type, request.type? = some type → types type) :
    Keeps (Field.Accounted types) (empty.after requests) := by
  refine after_preserves (fun request member registry keeps => ?_) (keeps_empty _)
  obtain ⟨schemas, within⟩ := among request member
  exact keeps.perform schemas fun type asked declaration declared entry entryMember field =>
    accounted_of_resolve (within type asked) declared entryMember

/-- A fault of a request is that of the missing declaration, or one that the declaration locates. -/
theorem attributed_of_perform (one : OneDeclaration types)
    (keeps : Keeps (Field.Accounted types) registry) (member : types type) {request : Request}
    (asked : request.type? = some type)
    (failed : (registry.perform request).answer = .error fault) :
    type.declared = .error fault ∨ ∃ declaration cause, type.declared = .ok declaration ∧
      fault = .declaration type.name cause ∧ declaration.Locates cause := by
  rcases perform_eq_error asked failed with refused | ⟨shared, found, unqueried⟩
  · exact attributed_of_resolve refused
  · right
    have after : Keeps (Field.Accounted types) (registry.resolve type).registry :=
      keeps.resolve fun declaration declared entry entryMember field =>
        accounted_of_resolve member declared entryMember
    obtain ⟨owned, accounted⟩ := after.schema (get?_of_resolve found)
    obtain ⟨before, field, behind, split, -, -, rfl⟩ :=
      (shared.content.schema.answers_queryBy.error_iff fault).mp unqueried
    have searched : field ∈ shared.content.schema.searchedFields := by
      rw [split]
      exact List.mem_append_right before List.mem_cons_self
    obtain ⟨fieldMember, searchable⟩ := List.mem_filter.mp searched
    -- The field may stem from another record type, which has the name and so the declaration.
    obtain ⟨other, declaration, otherMember, name, declared, named⟩ := accounted field fieldMember
    refine ⟨declaration, _, (one other type otherMember member name).symm.trans declared,
      congrArg (Fault.declaration · _) owned, ?_⟩
    rintro concerned ⟨⟩
    exact .inl (named searchable)

end Registry

end SearchCollection
