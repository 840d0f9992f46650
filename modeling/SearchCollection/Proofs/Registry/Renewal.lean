import SearchCollection.Proofs.Registry.Runs
import SearchCollection.Proofs.Schema.Anonymous

/-! # Assembling anew

Where no field of a declaration is kept, every field is looked up once and resolved
from its option, and a schema that is not kept is assembled as without a registry
(`Registry.rebuilds_of_missing`). Dropping a name leads there from any state
and leaves alone what is kept under other names (`Registry.dropping_renews`).
-/

namespace SearchCollection

namespace Registry

variable {registry : Registry} {record name : String} {type : RecordType}

/-- A field that is not kept is resolved from its option and counted as a miss. -/
theorem resolveField_of_missing (missing : registry.fields.get? (record, name) = none)
    (option : Normalized) :
    (registry.resolveField record name option).answer.map Shared.content =
        Field.resolve record name option ∧
      (registry.resolveField record name option).registry.fieldCounters =
        registry.fieldCounters.miss := by
  have lookup := registry.resolveField_lookup record name option
  generalize registry.resolveField record name option = outcome at lookup ⊢
  cases lookup with
  | kept found =>
      rw [missing] at found
      cases found
  | refused missing refused => exact ⟨refused.symm, rfl⟩
  | resolved missing resolved => exact ⟨resolved.symm, rfl⟩

/-- Fields that are not kept are resolved from their options, each with one miss. -/
theorem resolveFields_of_missing {entries : List (String × Normalized)}
    (nodup : (entries.map Prod.fst).Nodup)
    (missing : ∀ entry ∈ entries, registry.fields.get? (record, entry.1) = none) :
    (registry.resolveFields record entries).answer.map (List.map Shared.content) =
        Schema.resolveFields record entries ∧
      (registry.resolveFields record entries).registry.fieldCounters.hits =
        registry.fieldCounters.hits ∧
      ∀ fields, (registry.resolveFields record entries).answer = .ok fields →
        (registry.resolveFields record entries).registry.fieldCounters =
          { registry.fieldCounters with
            misses := registry.fieldCounters.misses + fields.length } := by
  induction entries generalizing registry with
  | nil =>
      refine ⟨rfl, rfl, fun fields answered => ?_⟩
      cases answered
      rfl
  | cons entry rest ih =>
      obtain ⟨headMissing, restMissing⟩ := List.forall_mem_cons.mp missing
      obtain ⟨fresh, restNodup⟩ := List.nodup_cons.mp nodup
      obtain ⟨answer, counters⟩ := resolveField_of_missing headMissing entry.2
      rw [resolveFields, Schema.resolveFields, ← answer]
      cases (registry.resolveField record entry.1 entry.2).answer with
      | error fault => exact ⟨rfl, by rw [counters]; rfl, fun fields answered => by cases answered⟩
      | ok shared =>
          -- What the first lookup keeps is under its own name, which no later entry has.
          have stillMissing : ∀ later ∈ rest,
              (registry.resolveField record entry.1 entry.2).registry.fields.get?
                (record, later.1) = none := by
            intro later member
            have different : (record, later.1) ≠ (record, entry.1) := by
              intro same
              exact fresh ((Prod.mk.inj same).2 ▸ List.mem_map_of_mem member)
            rw [resolveField_elsewhere registry record entry.1 entry.2 different,
              restMissing later member]
          obtain ⟨restAnswer, restHits, restCounters⟩ := ih restNodup stillMissing
          rw [counters] at restHits restCounters
          rw [← restAnswer]
          cases answered : ((registry.resolveField record entry.1 entry.2).registry.resolveFields
              record rest).answer with
          | error fault =>
              simp only [answered]
              exact ⟨rfl, restHits, fun fields answered => by cases answered⟩
          | ok others =>
              simp only [answered]
              refine ⟨rfl, restHits, fun fields answeredAll => ?_⟩
              cases answeredAll
              rw [restCounters others answered, List.length_cons, Nat.add_comm others.length,
                ← Nat.add_assoc]
              rfl

/-- The fields of a declaration that are not kept are resolved anew; what is kept under the names
of settings is not looked up. -/
theorem lookUpFields_of_missing
    (unkept : ∀ key, ¬Setting.Named key → registry.fields.get? (type.name, key) = none)
    (declaration : Declaration) :
    (registry.lookUpFields type declaration).answer.map (List.map Shared.content) =
        Schema.resolveFields type.name (Schema.fieldEntries (type.normalized declaration)) ∧
      (registry.lookUpFields type declaration).registry.fieldCounters.hits =
        registry.fieldCounters.hits ∧
      ∀ fields, (registry.lookUpFields type declaration).answer = .ok fields →
        (registry.lookUpFields type declaration).registry.fieldCounters =
          { registry.fieldCounters with
            misses := registry.fieldCounters.misses + fields.length } :=
  resolveFields_of_missing
    (Schema.nodup_fieldEntries (type.nodup_normalized declaration))
    fun entry member => unkept entry.1 (Schema.mem_fieldEntries.mp member).2

/-- What a missed schema is assembled from: the fields that are looked up, kept ones among them. -/
theorem answer_of_missing (missing : registry.schemas.get? type.name = none)
    {declaration : Declaration} (declared : type.declared = .ok declaration) :
    (registry.resolve type).answer.map (fun shared => shared.content.schema) =
      (registry.lookUpFields type declaration).answer.bind fun fields =>
        Schema.ofFields type.name (type.normalized declaration) (fields.map Shared.content) := by
  have lookup := registry.resolve_lookup type
  generalize registry.resolve type = outcome at lookup ⊢
  cases lookup with
  | kept found =>
      rw [missing] at found
      cases found
  | undeclared missing undeclared =>
      rw [declared] at undeclared
      cases undeclared
  | fieldRefused missing other refused =>
      cases declared.symm.trans other
      rw [refused]
      rfl
  | settingRefused missing other resolved refused =>
      cases declared.symm.trans other
      rw [resolved]
      exact refused.symm
  | assembled missing other resolved assembled =>
      cases declared.symm.trans other
      rw [resolved]
      exact assembled.symm

/-- The outcome of assembling a schema without the registry's help: the answer is the one without
a registry. It is one miss among schemas and, where it succeeds, one among fields for each field of
the schema; no field is a hit. -/
structure Rebuilds (registry : Registry) (type : RecordType)
    (outcome : Outcome (Shared KeptSchema)) : Prop where
  answer : outcome.answer.map (fun shared => shared.content.schema) =
    SearchCollection.assemble type
  schemaCounters : outcome.registry.schemaCounters = registry.schemaCounters.miss
  fieldHits : outcome.registry.fieldCounters.hits = registry.fieldCounters.hits
  fieldCounters {shared : Shared KeptSchema} (answered : outcome.answer = .ok shared) :
    outcome.registry.fieldCounters =
      { registry.fieldCounters with
        misses := registry.fieldCounters.misses + shared.content.schema.fields.length }

/-- Where neither the schema nor any of its fields is kept, the lookup of the schema assembles it
anew. -/
theorem rebuilds_of_missing (missing : registry.schemas.get? type.name = none)
    (unkept : ∀ key, ¬Setting.Named key → registry.fields.get? (type.name, key) = none) :
    Rebuilds registry type (registry.resolve type) := by
  have counted (declaration : Declaration) :
      (registry.lookUpFields type declaration).registry.schemaCounters =
        registry.schemaCounters.miss :=
    (resolveFields_schemas registry.schemaMiss type.name _).2
  have answer {declaration : Declaration} (declared : type.declared = .ok declaration) :
      (registry.resolve type).answer.map (fun shared => shared.content.schema) =
        SearchCollection.assemble type := by
    obtain ⟨resolved, -, -⟩ := lookUpFields_of_missing unkept declaration
    rw [answer_of_missing missing declared, assemble_of_declared declared, ← resolved]
    cases (registry.lookUpFields type declaration).answer <;> rfl
  have lookup := registry.resolve_lookup type
  generalize registry.resolve type = outcome at lookup answer ⊢
  cases lookup with
  | kept found =>
      rw [missing] at found
      cases found
  | undeclared missing undeclared =>
      refine ⟨?_, rfl, rfl, fun answered => by cases answered⟩
      rw [assemble_eq_bind, undeclared]
      rfl
  | fieldRefused missing declared refused =>
      obtain ⟨-, hits, -⟩ := lookUpFields_of_missing unkept _
      exact ⟨answer declared, counted _, hits, fun answered => by cases answered⟩
  | settingRefused missing declared resolved refused =>
      obtain ⟨-, hits, -⟩ := lookUpFields_of_missing unkept _
      exact ⟨answer declared, counted _, hits, fun answered => by cases answered⟩
  | @assembled declaration fields schema missing declared resolved assembled =>
      obtain ⟨-, hits, counters⟩ := lookUpFields_of_missing unkept declaration
      refine ⟨answer declared, counted declaration, hits, fun answered => ?_⟩
      cases answered
      have length : schema.fields.length = fields.length := by
        rw [Schema.fields_of_ofFields assembled, List.length_map]
      exact (counters fields resolved).trans (by rw [← length]; rfl)

/-- **Dropping renews and touches nothing else.** Whatever a registry has been through, after a
name has been dropped, or all names, the next lookup of its schema assembles it from the
declaration of the moment, as without a registry: it misses the schema once and, where it succeeds,
each field once, and hits no field. Dropping a name leaves the schemas and fields of the other names
as they are, the same objects, and all counters too, except that one more schema counts as dropped
if the name had one. -/
theorem dropping_renews (registry : Registry) (type : RecordType) :
    Rebuilds (registry.invalidate type.name).registry type
      ((registry.invalidate type.name).registry.resolve type) ∧
    Rebuilds registry.clear.registry type (registry.clear.registry.resolve type) ∧
    ∀ name : String,
      (∀ other, other ≠ name →
        (registry.invalidate name).registry.schemas.get? other = registry.schemas.get? other ∧
        ∀ key, (registry.invalidate name).registry.fields.get? (other, key) =
          registry.fields.get? (other, key)) ∧
      (registry.invalidate name).registry.fieldCounters = registry.fieldCounters ∧
      (registry.invalidate name).registry.schemaCounters =
        { registry.schemaCounters with
          invalidations := registry.schemaCounters.invalidations +
            if registry.isCached name then 1 else 0 } := by
  have invalidated := registry.vacant_invalidate type.name
  have cleared := registry.vacant_clear type.name
  refine ⟨rebuilds_of_missing invalidated.schema fun key _ => invalidated.field key,
    rebuilds_of_missing cleared.schema fun key _ => cleared.field key, fun name => ⟨?_, rfl, ?_⟩⟩
  · intro other different
    exact ⟨registry.schema_invalidate_of_ne different, registry.field_invalidate_of_ne different⟩
  · unfold invalidate isCached
    cases registry.schemas.contains name <;> rfl

/-- A registry with a schema and a field that its declaration does not have. -/
def patched : Registry :=
  empty.after [.resolveField "Volume" "title" (FieldOption.tokens "int32").normalize, .warm volume]

/-- The schema of the volume and its stale field are gone once its name is dropped, and dropping
another name leaves them. -/
theorem dropping_renews_reprint :
    Rebuilds (patched.invalidate "Volume").registry reprint
      ((patched.invalidate "Volume").registry.resolve reprint) ∧
    "Volume" ≠ "Leaflet" ∧
    (patched.invalidate "Leaflet").registry.schemas.get? "Volume" =
      patched.schemas.get? "Volume" := by
  obtain ⟨renewed, -, others⟩ := dropping_renews patched reprint
  have different : "Volume" ≠ "Leaflet" := by decide
  exact ⟨renewed, different, ((others "Leaflet").1 "Volume" different).1⟩

end Registry

end SearchCollection
