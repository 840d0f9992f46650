import Mathlib.Data.List.Nodup
import SearchCollection.Proofs.Registry.Residue

/-! # The accounts of a registry

A registry counts each lookup before the work that can fail, and keeps what comes of it
afterwards. In every run the two sides still balance (`Registry.accounts_exact`): lookups of
schemas are counted one by one, declarations are read where a schema is missing, and what is kept
or was dropped is what has been assembled. The fields are looked up in the order of their entries
until one is refused (`Registry.fieldLookups`). Each request books its own part
(`Registry.books_perform`), and the parts add up.
-/

namespace SearchCollection

namespace Cache

variable {κ α : Type} [DecidableEq κ] {cache : Cache κ α} {key : κ}

omit [DecidableEq κ] in
/-- No key is there twice. -/
def Distinct (cache : Cache κ α) : Prop :=
  (cache.entries.map Prod.fst).Nodup

/-- A cache has the keys of its entries. -/
theorem contains_iff : cache.contains key = true ↔ key ∈ cache.entries.map Prod.fst := by
  simp only [contains, get?, Option.isSome_map, List.find?_isSome, decide_eq_true_eq, List.mem_map]

/-- A value under a new key goes behind the others. -/
theorem add_of_missing (missing : cache.get? key = none) (value : α) :
    cache.add key value = ⟨cache.entries ++ [(key, value)]⟩ := by
  rw [add, contains, missing]
  rfl

/-- A value under a new key makes the cache larger by one. -/
theorem size_add (missing : cache.get? key = none) (value : α) :
    (cache.add key value).size = cache.size + 1 := by
  rw [add_of_missing missing, size, List.length_append]
  rfl

/-- Adding a value never puts a key into the cache twice. -/
theorem Distinct.add (distinct : cache.Distinct) (key : κ) (value : α) :
    (cache.add key value).Distinct := by
  unfold Cache.add
  by_cases held : cache.contains key = true
  · rwa [if_pos held]
  · rw [if_neg held, Distinct, List.map_append, List.nodup_append]
    refine ⟨distinct, List.nodup_singleton key, ?_⟩
    rintro other member _ added rfl
    obtain rfl := List.mem_singleton.mp added
    exact held (contains_iff.mpr member)

omit [DecidableEq κ] in
/-- Dropping values puts no key into the cache twice. -/
theorem Distinct.drop (distinct : cache.Distinct) (condition : κ → Bool) :
    (cache.drop condition).Distinct :=
  distinct.sublist (List.filter_sublist.map Prod.fst)

/-- One entry at most is dropped with a key. -/
theorem Distinct.size_drop (distinct : cache.Distinct) (key : κ) :
    (cache.drop (· = key)).size + (if cache.contains key then 1 else 0) = cache.size := by
  have dropped : cache.entries.countP (fun entry => entry.1 = key) =
      if cache.contains key then 1 else 0 := by
    have counted : cache.entries.countP (fun entry => entry.1 = key) =
        (cache.entries.map Prod.fst).count key := by
      rw [List.count, List.countP_map]
      rfl
    rw [counted]
    by_cases held : cache.contains key = true
    · rw [if_pos held, List.count_eq_one_of_mem distinct (contains_iff.mp held)]
    · rw [if_neg held, List.count_eq_zero_of_not_mem (mt contains_iff.mpr held)]
  have parts := List.length_eq_countP_add_countP (fun entry : κ × α => decide (entry.1 = key))
    (l := cache.entries)
  rw [← dropped, size, size, parts, Cache.drop, ← List.countP_eq_length_filter, Nat.add_comm]
  simp only [Bool.not_eq_true, Bool.decide_eq_false]

end Cache

namespace Registry

variable {registry next last : Registry} {record : String} {type : RecordType}
  {entry : String × Normalized} {entries : List (String × Normalized)}

/-! ## Lookups of fields -/

/-- Whether a lookup of the field of an entry fails. -/
def refuses (registry : Registry) (record : String) (entry : String × Normalized) : Bool :=
  !(registry.resolveField record entry.1 entry.2).answer.isOk

/-- The entries up to the first whose field is refused, and that one. -/
def throughRefused (registry : Registry) (record : String) :
    List (String × Normalized) → List (String × Normalized)
  | [] => []
  | entry :: rest =>
      entry :: if registry.refuses record entry then [] else registry.throughRefused record rest

/-- The fields that a lookup of a schema looks up: none where the schema is kept or not declared,
and else those of the declaration until one is refused. -/
def fieldLookups (registry : Registry) (type : RecordType) : List (String × Normalized) :=
  match registry.schemas.get? type.name, type.declared with
  | none, .ok declaration =>
      registry.throughRefused type.name (Schema.fieldEntries (type.normalized declaration))
  | _, _ => []

/-- The registry after lookups of fields that are made one after the other. -/
def lookUp (registry : Registry) (record : String) (entries : List (String × Normalized)) :
    Registry :=
  entries.foldl (fun before entry => (before.resolveField record entry.1 entry.2).registry) registry

/-- Whether a lookup of a field fails depends only on what is kept under its key. -/
theorem refuses_eq_of_get?_eq
    (same : next.fields.get? (record, entry.1) = registry.fields.get? (record, entry.1)) :
    next.refuses record entry = registry.refuses record entry := by
  unfold refuses resolveField
  rw [same]
  cases registry.fields.get? (record, entry.1) with
  | some kept => rfl
  | none => cases Field.resolve record entry.1 entry.2 <;> rfl

/-- Two registries that keep the same under the keys of some entries stop at the same one of
them. -/
theorem throughRefused_eq_of_get?_eq (same : ∀ entry ∈ entries,
      next.fields.get? (record, entry.1) = registry.fields.get? (record, entry.1)) :
    next.throughRefused record entries = registry.throughRefused record entries := by
  induction entries with
  | nil => rfl
  | cons entry rest ih =>
      obtain ⟨head, tail⟩ := List.forall_mem_cons.mp same
      rw [throughRefused, throughRefused, refuses_eq_of_get?_eq head, ih tail]

/-- The fields of entries with distinct names are looked up in order until one is refused. -/
theorem registry_resolveFields (nodup : (entries.map Prod.fst).Nodup) :
    (registry.resolveFields record entries).registry =
      registry.lookUp record (registry.throughRefused record entries) := by
  induction entries generalizing registry with
  | nil => rfl
  | cons entry rest ih =>
      obtain ⟨fresh, distinct⟩ := List.nodup_cons.mp nodup
      rw [throughRefused, refuses, resolveFields]
      cases answered : (registry.resolveField record entry.1 entry.2).answer with
      | error fault => rfl
      | ok shared =>
          -- The lookup of the head keeps nothing under the names of the others.
          have others : ∀ other ∈ rest,
              (registry.resolveField record entry.1 entry.2).registry.fields.get?
                (record, other.1) = registry.fields.get? (record, other.1) := by
            intro other member
            apply resolveField_elsewhere
            intro same
            have named : other.1 = entry.1 := congrArg Prod.snd same
            exact fresh (named ▸ List.mem_map_of_mem member)
          change ((registry.resolveField record entry.1 entry.2).registry.resolveFields
            record rest).registry = _
          rw [ih distinct, throughRefused_eq_of_get?_eq others]
          rfl

/-- A lookup of a field is counted once, and it drops nothing. -/
theorem fieldCounters_resolveField (registry : Registry) (record name : String)
    (option : Normalized) :
    (registry.resolveField record name option).registry.fieldCounters.total =
        registry.fieldCounters.total + 1 ∧
      (registry.resolveField record name option).registry.fieldCounters.invalidations =
        registry.fieldCounters.invalidations := by
  have lookup := registry.resolveField_lookup record name option
  generalize registry.resolveField record name option = outcome at lookup ⊢
  cases lookup with
  | kept found => exact ⟨Nat.succ_add _ _, rfl⟩
  | refused missing refused => exact ⟨rfl, rfl⟩
  | resolved missing resolved => exact ⟨rfl, rfl⟩

/-- Every lookup of a field is counted. -/
theorem fieldCounters_lookUp (registry : Registry) (record : String)
    (entries : List (String × Normalized)) :
    (registry.lookUp record entries).fieldCounters.total =
        registry.fieldCounters.total + entries.length ∧
      (registry.lookUp record entries).fieldCounters.invalidations =
        registry.fieldCounters.invalidations := by
  induction entries generalizing registry with
  | nil => exact ⟨rfl, rfl⟩
  | cons entry rest ih =>
      obtain ⟨headTotal, headDropped⟩ :=
        registry.fieldCounters_resolveField record entry.1 entry.2
      obtain ⟨total, dropped⟩ := ih (registry.resolveField record entry.1 entry.2).registry
      refine ⟨?_, dropped.trans headDropped⟩
      change ((registry.resolveField record entry.1 entry.2).registry.lookUp record
        rest).fieldCounters.total = _
      rw [total, headTotal, List.length_cons]
      omega

/-- A lookup of a field does not touch the count of schemas. -/
theorem registry_resolveField_schemaMiss (registry : Registry) (record name : String)
    (option : Normalized) :
    (registry.schemaMiss.resolveField record name option).registry =
      (registry.resolveField record name option).registry.schemaMiss := by
  simp only [resolveField, schemaMiss]
  cases registry.fields.get? (record, name) with
  | some kept => rfl
  | none => cases Field.resolve record name option <;> rfl

/-- The lookup of a schema is counted apart from those of its fields. -/
theorem lookUp_schemaMiss (registry : Registry) (record : String)
    (entries : List (String × Normalized)) :
    registry.schemaMiss.lookUp record entries = (registry.lookUp record entries).schemaMiss := by
  induction entries generalizing registry with
  | nil => rfl
  | cons entry rest ih =>
      change (registry.schemaMiss.resolveField record entry.1 entry.2).registry.lookUp record
        rest = _
      rw [registry_resolveField_schemaMiss, ih]
      rfl

/-- Assembling a schema makes the lookups of its fields, in order and up to the first refusal, and
counts one miss among schemas. -/
theorem registry_lookUpFields (missing : registry.schemas.get? type.name = none)
    {declaration : Declaration} (declared : type.declared = .ok declaration) :
    (registry.lookUpFields type declaration).registry =
      (registry.lookUp type.name (registry.fieldLookups type)).schemaMiss := by
  have nodup := Schema.nodup_fieldEntries (type.nodup_normalized declaration)
  rw [lookUpFields, registry_resolveFields nodup, lookUp_schemaMiss, fieldLookups, missing,
    declared]
  exact congrArg (fun asked => (registry.lookUp type.name asked).schemaMiss)
    (throughRefused_eq_of_get?_eq fun _ _ => rfl)

/-- For a schema that is kept no field is looked up. -/
theorem fieldLookups_of_get? {shared : Shared KeptSchema}
    (found : registry.schemas.get? type.name = some shared) : registry.fieldLookups type = [] := by
  rw [fieldLookups, found]

/-- For a record type without a declaration no field is looked up. -/
theorem fieldLookups_of_undeclared {fault : Fault} (undeclared : type.declared = .error fault) :
    registry.fieldLookups type = [] := by
  rw [fieldLookups, undeclared]
  cases registry.schemas.get? type.name <;> rfl

/-- A lookup of a schema looks its fields up one by one, and does nothing else to fields. -/
theorem fields_resolve (registry : Registry) (type : RecordType) :
    (registry.resolve type).registry.fields =
        (registry.lookUp type.name (registry.fieldLookups type)).fields ∧
      (registry.resolve type).registry.fieldCounters =
        (registry.lookUp type.name (registry.fieldLookups type)).fieldCounters := by
  have lookup := registry.resolve_lookup type
  generalize registry.resolve type = outcome at lookup ⊢
  cases lookup with
  | kept found =>
      rw [fieldLookups_of_get? found]
      exact ⟨rfl, rfl⟩
  | undeclared missing undeclared =>
      rw [fieldLookups_of_undeclared undeclared]
      exact ⟨rfl, rfl⟩
  | fieldRefused missing declared refused =>
      rw [registry_lookUpFields missing declared]
      exact ⟨rfl, rfl⟩
  | settingRefused missing declared resolved refused =>
      rw [registry_lookUpFields missing declared]
      exact ⟨rfl, rfl⟩
  | assembled missing declared resolved assembled =>
      rw [registry_lookUpFields missing declared]
      exact ⟨rfl, rfl⟩

/-! ## Lookups of schemas -/

/-- Whether a lookup of a schema assembles one. -/
def assembles (registry : Registry) (type : RecordType) : Bool :=
  (registry.schemas.get? type.name).isNone && (registry.resolve type).answer.isOk

/-- The lookups of schemas that a request makes, each with the registry that is asked. -/
def lookupsOf (registry : Registry) : Request → List (Registry × RecordType)
  | .resolve type | .collectionSchema type | .queryBy type | .warm type | .document type _ =>
      [(registry, type)]
  | .lint type =>
      if (registry.resolve type).answer.isOk then
        [(registry, type), ((registry.resolve type).registry, type)]
      else [(registry, type)]
  | .resolveField _ _ _ | .invalidate _ | .clear => []

/-- The lookups of schemas in a run. -/
def schemaLookups (registry : Registry) : List Request → List (Registry × RecordType)
  | [] => []
  | request :: rest =>
      registry.lookupsOf request ++ (registry.perform request).registry.schemaLookups rest

/-- How often a declaration is asked for in a run. -/
def declarationReads (registry : Registry) : List Request → Nat
  | [] => 0
  | request :: rest =>
      (registry.perform request).declarationReads +
        (registry.perform request).registry.declarationReads rest

/-- What is counted and kept on the way from one registry to another is what the given lookups
come to. -/
structure Books (registry next : Registry) (lookups : List (Registry × RecordType))
    (reads direct : Nat) : Prop where
  schemaTotal : next.schemaCounters.total = registry.schemaCounters.total + lookups.length
  schemaMisses : next.schemaCounters.misses = registry.schemaCounters.misses + reads
  kept : next.schemas.size + next.schemaCounters.invalidations =
    registry.schemas.size + registry.schemaCounters.invalidations +
      lookups.countP fun lookup => lookup.1.assembles lookup.2
  fieldTotal : next.fieldCounters.total = registry.fieldCounters.total +
    (lookups.flatMap fun lookup => lookup.1.fieldLookups lookup.2).length + direct
  fieldInvalidations : next.fieldCounters.invalidations = registry.fieldCounters.invalidations

namespace Books

variable {lookups others : List (Registry × RecordType)} {reads more direct further : Nat}

theorem refl (registry : Registry) : Books registry registry [] 0 0 :=
  ⟨rfl, rfl, rfl, rfl, rfl⟩

/-- The lookups of two ways made one after the other add up. -/
theorem trans (first : Books registry next lookups reads direct)
    (second : Books next last others more further) :
    Books registry last (lookups ++ others) (reads + more) (direct + further) where
  schemaTotal := by
    rw [second.schemaTotal, first.schemaTotal, List.length_append, Nat.add_assoc]
  schemaMisses := by rw [second.schemaMisses, first.schemaMisses, Nat.add_assoc]
  kept := by rw [second.kept, first.kept, List.countP_append, Nat.add_assoc]
  fieldTotal := by
    rw [second.fieldTotal, first.fieldTotal, List.flatMap_append, List.length_append]
    omega
  fieldInvalidations := second.fieldInvalidations.trans first.fieldInvalidations

end Books

/-- Assembling a schema is counted as one miss among schemas. -/
theorem schemaCounters_lookUpFields (registry : Registry) (type : RecordType)
    (declaration : Declaration) :
    (registry.lookUpFields type declaration).registry.schemaCounters =
      registry.schemaCounters.miss :=
  (resolveFields_schemas registry.schemaMiss type.name _).2

/-- A lookup of a schema is counted before anything else, as a miss where the declaration is
read. -/
theorem schemaCounters_resolve (registry : Registry) (type : RecordType) :
    (registry.resolve type).registry.schemaCounters.total = registry.schemaCounters.total + 1 ∧
      (registry.resolve type).registry.schemaCounters.misses =
        registry.schemaCounters.misses + (registry.resolve type).declarationReads ∧
      (registry.resolve type).registry.schemaCounters.invalidations =
        registry.schemaCounters.invalidations := by
  have lookup := registry.resolve_lookup type
  generalize registry.resolve type = outcome at lookup ⊢
  cases lookup with
  | kept found => exact ⟨Nat.succ_add _ _, rfl, rfl⟩
  | undeclared missing undeclared => exact ⟨rfl, rfl, rfl⟩
  | fieldRefused missing declared refused =>
      rw [schemaCounters_lookUpFields]
      exact ⟨rfl, rfl, rfl⟩
  | settingRefused missing declared resolved refused =>
      rw [schemaCounters_lookUpFields]
      exact ⟨rfl, rfl, rfl⟩
  | assembled missing declared resolved assembled =>
      rw [keepSchema, schemaCounters_lookUpFields]
      exact ⟨rfl, rfl, rfl⟩

/-- A schema is kept exactly where one is assembled. -/
theorem size_resolve (registry : Registry) (type : RecordType) :
    (registry.resolve type).registry.schemas.size =
      registry.schemas.size + if registry.assembles type then 1 else 0 := by
  unfold assembles
  have lookup := registry.resolve_lookup type
  generalize registry.resolve type = outcome at lookup ⊢
  cases lookup with
  | kept found =>
      rw [found]
      rfl
  | undeclared missing undeclared =>
      rw [missing]
      rfl
  | fieldRefused missing declared refused =>
      rw [missing, schemas_lookUpFields]
      rfl
  | settingRefused missing declared resolved refused =>
      rw [missing, schemas_lookUpFields]
      rfl
  | assembled missing declared resolved assembled =>
      rw [missing, keepSchema, schemas_lookUpFields, Cache.size_add missing]
      rfl

/-- The lookup of a schema is one lookup on the books, with the lookups of fields that it takes. -/
theorem books_resolve (registry : Registry) (type : RecordType) :
    Books registry (registry.resolve type).registry [(registry, type)]
      (registry.resolve type).declarationReads 0 := by
  obtain ⟨counted, missed, undropped⟩ := registry.schemaCounters_resolve type
  obtain ⟨-, counters⟩ := registry.fields_resolve type
  obtain ⟨fieldsCounted, fieldsUndropped⟩ :=
    registry.fieldCounters_lookUp type.name (registry.fieldLookups type)
  refine ⟨counted, missed, ?_, ?_, ?_⟩
  · rw [size_resolve, undropped, List.countP_singleton, Nat.add_right_comm]
  · rw [counters, fieldsCounted, List.flatMap_singleton]
    rfl
  · rw [counters, fieldsUndropped]

/-- The lookup of a single field is on the books as one that no schema made. -/
theorem books_resolveField (registry : Registry) (record name : String) (option : Normalized) :
    Books registry (registry.resolveField record name option).registry []
      (registry.resolveField record name option).declarationReads 1 := by
  obtain ⟨schemas, counters⟩ := registry.resolveField_schemas record name option
  obtain ⟨counted, undropped⟩ := registry.fieldCounters_resolveField record name option
  have unread : (registry.resolveField record name option).declarationReads = 0 := by
    have lookup := registry.resolveField_lookup record name option
    generalize registry.resolveField record name option = outcome at lookup ⊢
    cases lookup <;> rfl
  refine ⟨?_, ?_, ?_, ?_, undropped⟩
  · rw [counters]
    rfl
  · rw [counters, unread]
    rfl
  · rw [schemas, counters]
    rfl
  · rw [counted]
    rfl

/-- Dropping a name is no lookup, and it makes the cache of schemas smaller by what was kept under
the name. -/
theorem books_invalidate (distinct : registry.schemas.Distinct) (name : String) :
    Books registry (registry.invalidate name).registry [] 0 0 := by
  have size := distinct.size_drop name
  have counters : (registry.invalidate name).registry.schemaCounters =
      registry.schemaCounters.invalidate (if registry.schemas.contains name then 1 else 0) := by
    rw [invalidate]
    split <;> rfl
  refine ⟨by rw [counters]; rfl, by rw [counters]; rfl, ?_, rfl, rfl⟩
  have dropped : (registry.invalidate name).registry.schemaCounters.invalidations =
      registry.schemaCounters.invalidations + if registry.schemas.contains name then 1 else 0 :=
    congrArg Counters.invalidations counters
  change (registry.schemas.drop (· = name)).size + _ = _
  rw [dropped, ← size, List.countP_nil]
  omega

/-- Dropping everything is no lookup. -/
theorem books_clear (registry : Registry) : Books registry registry.clear.registry [] 0 0 := by
  refine ⟨rfl, rfl, ?_, rfl, rfl⟩
  change 0 + (registry.schemaCounters.invalidations + registry.schemas.size) = _
  rw [List.countP_nil]
  omega

/-- Every request books its lookups, what it reads and whether it asks for a field by itself. -/
theorem books_perform (distinct : registry.schemas.Distinct) (request : Request) :
    Books registry (registry.perform request).registry (registry.lookupsOf request)
      (registry.perform request).declarationReads (if request.AsksField then 1 else 0) := by
  cases request with
  | resolve type => exact registry.books_resolve type
  | collectionSchema type => exact registry.books_resolve type
  | queryBy type => exact registry.books_resolve type
  | warm type => exact registry.books_resolve type
  | document type record => exact registry.books_resolve type
  | resolveField record name option => exact registry.books_resolveField record name option
  | invalidate name => exact books_invalidate distinct name
  | clear => exact registry.books_clear
  | lint type =>
      change Books registry (registry.lint type).registry _ (registry.lint type).declarationReads 0
      have first := registry.books_resolve type
      rw [lint, lookupsOf]
      cases answered : (registry.resolve type).answer with
      | error fault => exact first
      | ok shared => exact first.trans ((registry.resolve type).registry.books_resolve type)

/-! ## Runs -/

/-- Lookups put no schema into the cache twice. -/
theorem Growth.distinct {name : String} (growth : Growth name registry next)
    (distinct : registry.schemas.Distinct) : next.schemas.Distinct := by
  induction growth with
  | refl => exact distinct
  | counted _ schemas _ _ ih => rwa [schemas]
  | field _ _ _ ih => exact ih
  | schema _ _ _ _ ih => exact ih.add name _

/-- No request puts a schema into the cache twice. -/
theorem distinct_perform (request : Request) (distinct : registry.schemas.Distinct) :
    (registry.perform request).registry.schemas.Distinct :=
  perform_preserves (motive := fun other => other.schemas.Distinct) Growth.distinct
    (fun name before => before.drop (· = name)) (fun _ => List.nodup_nil) request registry distinct

/-- A run books what its requests book. -/
theorem books_after (distinct : registry.schemas.Distinct) (requests : List Request) :
    Books registry (registry.after requests) (registry.schemaLookups requests)
      (registry.declarationReads requests) (requests.countP Request.AsksField) := by
  induction requests generalizing registry with
  | nil => exact .refl registry
  | cons request rest ih =>
      have head := books_perform distinct request
      have tail := ih (distinct_perform request distinct)
      rw [List.countP_cons, Nat.add_comm]
      simp only [decide_eq_true_eq]
      exact head.trans tail

/-- **The accounts of a registry balance.** In every run the lookups of schemas are counted one by
one, the misses are the declarations read, and what is kept and what was dropped is together what
was assembled. A lookup of a schema that is not kept looks up the declared fields in order until
one is refused; with those that are asked for by themselves, these are the lookups of fields that
are counted. -/
theorem accounts_exact (requests : List Request) :
    (empty.after requests).schemaCounters.total = (empty.schemaLookups requests).length ∧
    (empty.after requests).schemaCounters.misses = empty.declarationReads requests ∧
    (empty.after requests).schemas.size + (empty.after requests).schemaCounters.invalidations =
      (empty.schemaLookups requests).countP (fun lookup => lookup.1.assembles lookup.2) ∧
    (∀ (registry : Registry) (type : RecordType),
      (registry.resolve type).registry.fields =
        (registry.lookUp type.name (registry.fieldLookups type)).fields ∧
      (registry.resolve type).registry.fieldCounters =
        (registry.lookUp type.name (registry.fieldLookups type)).fieldCounters) ∧
    (empty.after requests).fieldCounters.total =
      ((empty.schemaLookups requests).flatMap fun lookup =>
        lookup.1.fieldLookups lookup.2).length + requests.countP Request.AsksField ∧
    (empty.after requests).fieldCounters.invalidations = 0 := by
  have distinct : empty.schemas.Distinct := List.nodup_nil
  obtain ⟨total, misses, kept, fieldTotal, fieldInvalidations⟩ := books_after distinct requests
  refine ⟨?_, ?_, ?_, fields_resolve, ?_, fieldInvalidations⟩
  · rw [total]
    exact Nat.zero_add _
  · rw [misses]
    exact Nat.zero_add _
  · rw [kept]
    exact Nat.zero_add _
  · rw [fieldTotal]
    exact congrArg (· + _) (Nat.zero_add _)

example : (empty.after [.lint volume, .invalidate "Volume", .invalidate "Volume"]).schemaCounters =
    ⟨1, 1, 1⟩ := by
  decide

end Registry

end SearchCollection
