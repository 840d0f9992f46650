import SearchCollection.Proofs.Registry.Renewal
import SearchCollection.Proofs.Registry.Transparency

/-! # Registries that are fresh for a record type

A registry is fresh for a record type if it has no schema under the name and every
field that it keeps there is what the record type's own option resolves to
(`Registry.Fresh`). Then the record type is answered as without a registry
(`Registry.Fresh.resolve`, `Registry.Fresh.warm`). A registry without any field under
the name is fresh, and so is one that has only been asked about consistent record types, also
where it refused the record type before (`Registry.fresh_of_sound`).
-/

namespace SearchCollection.Registry

variable {registry : Registry} {type : RecordType} {record name : String}

/-- No schema is kept under the name, and the fields that are kept for the declaration are what its
options resolve to, up to the identities of functions. -/
structure Fresh (registry : Registry) (type : RecordType) : Prop where
  schema : registry.schemas.get? type.name = none
  field {declaration : Declaration} {entry : String × Normalized} {shared : Shared Field}
    (declared : type.declared = .ok declaration)
    (member : entry ∈ Schema.fieldEntries (type.normalized declaration))
    (found : registry.fields.get? (type.name, entry.1) = some shared) :
    (Field.resolve type.name entry.1 entry.2).map Field.anonymous = .ok shared.content.anonymous

/-- A registry that keeps nothing of a record type is fresh for it. -/
theorem fresh_of_unkept (missing : registry.schemas.get? type.name = none)
    (unkept : ∀ key, registry.fields.get? (type.name, key) = none) : registry.Fresh type where
  schema := missing
  field _ _ found := by
    rw [unkept] at found
    cases found

/-- An empty registry is fresh for every record type. -/
theorem fresh_empty (type : RecordType) : empty.Fresh type :=
  fresh_of_unkept rfl fun _ => rfl

/-- What consistent record types leave behind is fresh for each of them. -/
theorem fresh_of_sound {types : RecordType → Prop} (consistent : Consistent types)
    (sound : Sound types registry) (member : types type)
    (missing : registry.schemas.get? type.name = none) : registry.Fresh type where
  schema := missing
  field declared entryMember found := by
    obtain ⟨option, declares, resolved⟩ := sound.field found
    have own := declares_of_mem member declared (Schema.mem_fieldEntries.mp entryMember).1
    rw [Field.resolve_congr _ _ (own.anonymous_eq consistent declares), resolved]

/-- A lookup of a field answers what its option resolves to, if a kept field is what the option
resolves to. -/
theorem resolveField_of_expected {option : Normalized}
    (expected : ∀ shared, registry.fields.get? (record, name) = some shared →
      (Field.resolve record name option).map Field.anonymous = .ok shared.content.anonymous) :
    (registry.resolveField record name option).answer.map
        (fun shared => shared.content.anonymous) =
      (Field.resolve record name option).map Field.anonymous := by
  have lookup := registry.resolveField_lookup record name option
  generalize registry.resolveField record name option = outcome at lookup ⊢
  cases lookup with
  | kept found => exact (expected _ found).symm
  | refused missing refused =>
      rw [refused]
      rfl
  | resolved missing resolved =>
      rw [resolved]
      rfl

/-- Fields are looked up as they are resolved if what is kept for them is what they resolve to. -/
theorem resolveFields_of_expected {entries : List (String × Normalized)}
    (nodup : (entries.map Prod.fst).Nodup)
    (expected : ∀ entry ∈ entries, ∀ shared,
      registry.fields.get? (record, entry.1) = some shared →
      (Field.resolve record entry.1 entry.2).map Field.anonymous =
        .ok shared.content.anonymous) :
    (registry.resolveFields record entries).answer.map
        (List.map fun shared => shared.content.anonymous) =
      (Schema.resolveFields record entries).map (List.map Field.anonymous) := by
  induction entries generalizing registry with
  | nil => rfl
  | cons entry rest ih =>
      obtain ⟨headExpected, restExpected⟩ := List.forall_mem_cons.mp expected
      obtain ⟨fresh, restNodup⟩ := List.nodup_cons.mp nodup
      have head := resolveField_of_expected headExpected
      have stillExpected : ∀ later ∈ rest, ∀ shared,
          (registry.resolveField record entry.1 entry.2).registry.fields.get?
            (record, later.1) = some shared →
          (Field.resolve record later.1 later.2).map Field.anonymous =
            .ok shared.content.anonymous := by
        intro later member shared found
        -- What the first lookup keeps is under its own name, which no later entry has.
        have different : (record, later.1) ≠ (record, entry.1) := by
          intro same
          exact fresh ((Prod.mk.inj same).2 ▸ List.mem_map_of_mem member)
        rw [resolveField_elsewhere registry record entry.1 entry.2 different] at found
        exact restExpected later member shared found
      have tail := ih restNodup stillExpected
      rw [Registry.resolveFields, Schema.resolveFields]
      rcases fault_or_value_of_map_eq head with
        ⟨fault, refused, resolved⟩ | ⟨shared, field, answered, resolved, same⟩
      · simp only [refused, resolved]
        rfl
      · simp only [answered, resolved]
        rcases fault_or_value_of_map_eq tail with
          ⟨fault, refused, resolved⟩ | ⟨others, fields, answered, resolved, sameRest⟩
        · simp only [refused, resolved]
          rfl
        · simp only [answered, resolved]
          exact congrArg₂ (fun first rest => Except.ok (first :: rest)) same sameRest

namespace Fresh

/-- The schema is assembled as without a registry. -/
theorem resolve (fresh : registry.Fresh type) :
    (registry.resolve type).answer.map (fun shared => shared.content.schema.anonymous) =
      (SearchCollection.assemble type).map Schema.anonymous := by
  cases declared : type.declared with
  | error fault =>
      rw [Registry.resolve, fresh.schema, declared, assemble_eq_bind, declared]
      rfl
  | ok declaration =>
      have fields : (registry.lookUpFields type declaration).answer.map
          (List.map fun shared => shared.content.anonymous) =
            (Schema.resolveFields type.name
              (Schema.fieldEntries (type.normalized declaration))).map
                (List.map Field.anonymous) :=
        @resolveFields_of_expected registry.schemaMiss type.name _
          (Schema.nodup_fieldEntries (type.nodup_normalized declaration))
          fun entry member shared found => fresh.field declared member found
      rw [← assemble_of_fields declared fields, ← answer_of_missing fresh.schema declared]
      cases (registry.resolve type).answer <;> rfl

/-- Warming up fails exactly as the schema and its list of query fields do. -/
theorem warm (fresh : registry.Fresh type) :
    (registry.warm type).answer =
      ((SearchCollection.assemble type).bind Schema.queryBy).map fun _ => () := by
  have answer : (registry.warm type).answer = (SearchCollection.assemble type).bind fun schema =>
      schema.queryBy.map fun _ => () :=
    bind_eq_of_anonymous (fun schema => schema.queryBy.map fun _ => ())
      (fun schema => by rw [schema.queryBy_anonymous]) fresh.resolve
  rw [answer]
  cases SearchCollection.assemble type <;> rfl

end Fresh

end SearchCollection.Registry
