import Mathlib.Data.List.Induction
import SearchCollection.Proofs.Registry.Renewal
import SearchCollection.Proofs.Schema.Assembled

/-! # What a refused schema leaves behind

A lookup of a schema that fails keeps the fields that it resolved before the fault.
They stay until the name is dropped, and a later lookup takes them for its own
fields, whatever the declaration says by then. A name without a schema is therefore
assembled anew from every declaration exactly when no field is kept under it
(`Registry.rebuilds_iff`). As long as no field is asked for by itself, one is kept
exactly where a lookup was refused whose first field was fine and the name has not
been dropped since (`Registry.miss_rebuilds_iff`).
-/

namespace SearchCollection

/-- The request asks for a single field. -/
def Request.AsksField : Request → Prop
  | .resolveField _ _ _ => True
  | _ => False

instance : DecidablePred Request.AsksField
  | .resolveField _ _ _ => .isTrue trivial
  | .resolve _ | .collectionSchema _ | .queryBy _ | .warm _ | .lint _ | .document _ _
  | .invalidate _ | .clear => .isFalse id

/-- The declaration has a field, and the option of its first one resolves. -/
def RecordType.StartsFine (type : RecordType) : Prop :=
  ∃ declaration entry entries field, type.declared = .ok declaration ∧
    Schema.fieldEntries (type.normalized declaration) = entry :: entries ∧
    Field.resolve type.name entry.1 entry.2 = .ok field

def Declaration.single (key word : String) : Declaration where
  entries := [(key, .tokens word)]
  nodup := by simp

/-- A record type with one field, its primary key, of the type that a word names. -/
def singleField (name key word : String) : RecordType where
  name := name
  declared := .ok (.single key word)
  primaryKey := key

section SingleField

variable (name : String) {key : String} (word : String)

/-- The declaration of one field is completed to itself, since the field is its primary key. -/
theorem normalized_singleField : (singleField name key word).normalized (.single key word) =
    [(key, (FieldOption.tokens word).normalize)] := by
  simp [RecordType.normalized, RecordType.entries_complete, RecordType.keyEntry,
    RecordType.deletionEntry, Declaration.names, singleField, Declaration.single]

/-- The one entry is that of a field, as long as its name is that of no setting. -/
theorem fieldEntries_singleField (free : ¬Setting.Named key) :
    Schema.fieldEntries ((singleField name key word).normalized (.single key word)) =
      [(key, (FieldOption.tokens word).normalize)] := by
  simp [normalized_singleField, Schema.fieldEntries_eq_filter, free]

/-- A declaration of one field has no setting, as long as the name of the field is that of none. -/
theorem settingEntries_singleField (free : ¬Setting.Named key) :
    Schema.settingEntries ((singleField name key word).normalized (.single key word)) = [] := by
  simp [normalized_singleField, Schema.settingEntries, Setting.ofName?_eq_none_iff.mpr free]

end SingleField

namespace Registry

variable {registry : Registry} {name key : String} {type : RecordType} {request : Request}
  {requests : List Request}

/-- A kept field is taken for the only field of a declaration. -/
theorem lookUpFields_singleField (free : ¬Setting.Named key) {shared : Shared Field}
    (found : registry.fields.get? (name, key) = some shared) (word : String) :
    (registry.lookUpFields (singleField name key word) (.single key word)).answer =
      .ok [shared] := by
  have handed : (registry.schemaMiss.resolveField name key
      (FieldOption.tokens word).normalize).answer = .ok shared :=
    @resolveField_of_get? registry.schemaMiss name key shared found _
  rw [lookUpFields, fieldEntries_singleField name word free]
  change (registry.schemaMiss.resolveFields name _).answer = _
  simp only [resolveFields, handed]
  rfl

/-- If the schema of a kept field alone is assembled anew, the field is what the option resolves
to. -/
theorem resolve_of_rebuilds_singleField {word : String}
    (missing : registry.schemas.get? name = none) (free : ¬Setting.Named key)
    {shared : Shared Field} (found : registry.fields.get? (name, key) = some shared)
    (rebuilds : Rebuilds registry (singleField name key word)
      (registry.resolve (singleField name key word))) :
    Field.resolve name key (FieldOption.tokens word).normalize = .ok shared.content := by
  have declared : (singleField name key word).declared = .ok (.single key word) := rfl
  have assembled : SearchCollection.assemble (singleField name key word) =
      .ok ⟨name, (singleField name key word).normalized (.single key word),
        [shared.content], []⟩ := by
    rw [← rebuilds.answer, answer_of_missing missing declared,
      lookUpFields_singleField free found]
    simp only [Except.bind, Schema.ofFields, settingEntries_singleField name word free]
    rfl
  obtain ⟨-, -, resolves, -⟩ := (assemble_eq_ok_iff declared).mp assembled
  rw [fieldEntries_singleField name word free] at resolves
  cases resolves with
  | cons head _ => exact head

/-- A name without a schema is assembled anew from every declaration exactly when no field is kept
under it but where settings are declared. -/
theorem rebuilds_iff (missing : registry.schemas.get? name = none) :
    (∀ type : RecordType, type.name = name → Rebuilds registry type (registry.resolve type)) ↔
      ∀ key, ¬Setting.Named key → registry.fields.get? (name, key) = none := by
  constructor
  · intro rebuilds key free
    cases found : registry.fields.get? (name, key) with
    | none => rfl
    | some shared =>
        have resolves (word : String) :
            Field.resolve name key (FieldOption.tokens word).normalize = .ok shared.content :=
          resolve_of_rebuilds_singleField missing free found (rebuilds _ rfl)
        -- The one kept field cannot be what two options with different types resolve to.
        have whole : Except.ok .int32 = Except.ok shared.content.type :=
          congrArg (Except.map Field.type) (resolves "int32")
        have text : Except.ok .string = Except.ok shared.content.type :=
          congrArg (Except.map Field.type) (resolves "string")
        cases whole.trans text.symm
  · rintro unkept type rfl
    exact rebuilds_of_missing missing unkept

/-- The first field that is looked up is kept if it resolves. -/
theorem exists_first_kept {entry : String × Normalized} {entries : List (String × Normalized)}
    {field : Field} (resolves : Field.resolve name entry.1 entry.2 = .ok field) :
    ∃ shared, (registry.resolveFields name (entry :: entries)).registry.fields.get?
      (name, entry.1) = some shared := by
  obtain ⟨shared, answered⟩ : ∃ shared,
      (registry.resolveField name entry.1 entry.2).answer = .ok shared := by
    have lookup := registry.resolveField_lookup name entry.1 entry.2
    generalize registry.resolveField name entry.1 entry.2 = outcome at lookup ⊢
    cases lookup with
    | kept found => exact ⟨_, rfl⟩
    | refused missing refused =>
        rw [resolves] at refused
        cases refused
    | resolved missing resolved => exact ⟨_, rfl⟩
  have kept := get?_of_resolveField answered
  rw [resolveFields]
  simp only [answered]
  exact ⟨shared, (resolveFields_growth _ _ entries).field_kept kept⟩

/-- Where a field is kept after lookups and none was before, the first of them resolved. -/
theorem exists_first_resolves {entries : List (String × Normalized)}
    (missing : ∀ entry ∈ entries, registry.fields.get? (name, entry.1) = none)
    (unkept : registry.fields.get? (name, key) = none) {shared : Shared Field}
    (found : (registry.resolveFields name entries).registry.fields.get? (name, key) =
      some shared) :
    ∃ entry rest field, entries = entry :: rest ∧
      Field.resolve name entry.1 entry.2 = .ok field := by
  cases entries with
  | nil =>
      rw [resolveFields, unkept] at found
      cases found
  | cons entry rest =>
      cases resolution : Field.resolve name entry.1 entry.2 with
      | ok field => exact ⟨entry, rest, field, rfl, resolution⟩
      | error fault =>
          rw [resolveFields, resolveField, missing entry List.mem_cons_self, resolution] at found
          rw [unkept] at found
          cases found

/-- A refused lookup of a declared schema leaves the registry as the lookups of its fields do. -/
theorem registry_of_refused {declaration : Declaration} {fault : Fault}
    (declared : type.declared = .ok declaration)
    (refused : (registry.resolve type).answer = .error fault) :
    (registry.resolve type).registry = (registry.lookUpFields type declaration).registry := by
  have lookup := registry.resolve_lookup type
  generalize registry.resolve type = outcome at lookup refused ⊢
  cases lookup with
  | kept found => cases refused
  | undeclared missing undeclared =>
      rw [declared] at undeclared
      cases undeclared
  | fieldRefused missing other _ =>
      cases declared.symm.trans other
      rfl
  | settingRefused missing other _ _ =>
      cases declared.symm.trans other
      rfl
  | assembled missing other resolved assembled => cases refused

/-- A refused lookup leaves a field behind if the first one was fine. -/
theorem exists_kept_of_startsFine {fault : Fault} (starts : type.StartsFine)
    (refused : (registry.resolve type).answer = .error fault) :
    ∃ key shared, ¬Setting.Named key ∧
      (registry.resolve type).registry.fields.get? (type.name, key) = some shared := by
  obtain ⟨declaration, entry, entries, field, declared, split, resolves⟩ := starts
  have member : entry ∈ Schema.fieldEntries (type.normalized declaration) := by
    rw [split]
    exact List.mem_cons_self
  obtain ⟨shared, kept⟩ : ∃ shared, (registry.schemaMiss.resolveFields type.name
      (entry :: entries)).registry.fields.get? (type.name, entry.1) = some shared :=
    exists_first_kept resolves
  refine ⟨entry.1, shared, (Schema.mem_fieldEntries.mp member).2, ?_⟩
  rw [registry_of_refused declared refused, lookUpFields, split]
  exact kept

/-- A refused lookup that finds no field kept and leaves one behind has a first field that is
fine. -/
theorem startsFine_of_kept {fault : Fault}
    (unkept : ∀ key, ¬Setting.Named key → registry.fields.get? (type.name, key) = none)
    (refused : (registry.resolve type).answer = .error fault) (free : ¬Setting.Named key)
    {shared : Shared Field}
    (found : (registry.resolve type).registry.fields.get? (type.name, key) = some shared) :
    type.StartsFine := by
  cases declared : type.declared with
  | error fault =>
      have untouched : (registry.resolve type).registry.fields = registry.fields := by
        rw [resolve]
        cases registry.schemas.get? type.name with
        | some kept => rfl
        | none => rw [declared]
      rw [untouched, unkept key free] at found
      cases found
  | ok declaration =>
      rw [registry_of_refused declared refused] at found
      have missing : ∀ entry ∈ Schema.fieldEntries (type.normalized declaration),
          registry.schemaMiss.fields.get? (type.name, entry.1) = none :=
        fun entry member => unkept entry.1 (Schema.mem_fieldEntries.mp member).2
      obtain ⟨entry, entries, field, split, resolves⟩ :=
        exists_first_resolves missing (unkept key free) found
      exact ⟨declaration, entry, entries, field, declared, split, resolves⟩

/-- In the run a lookup under the name was refused whose first field was fine, and the name has not
been dropped since. -/
inductive LeftBehind (name : String) (requests : List Request) : Prop where
  | refused {before rest : List Request} {request : Request} {type : RecordType} {fault : Fault}
      (split : requests = before ++ request :: rest) (asked : request.type? = some type)
      (named : type.name = name) (starts : type.StartsFine)
      (refused : ((empty.after before).resolve type).answer = .error fault)
      (undropped : ∀ later ∈ rest, ¬later.Drops name)

/-- Something stays left behind until the name is dropped. -/
theorem LeftBehind.append (left : LeftBehind name requests) (undropped : ¬request.Drops name) :
    LeftBehind name (requests ++ [request]) := by
  cases left with
  | @refused before rest refusing type fault split asked named starts refused undroppedRest =>
      have longer : requests ++ [request] = before ++ refusing :: (rest ++ [request]) := by
        rw [split, List.append_assoc, List.cons_append]
      refine .refused longer asked named starts refused fun later member => ?_
      rcases List.mem_append.mp member with old | new
      · exact undroppedRest later old
      · rwa [List.mem_singleton.mp new]

/-- What is left behind under a name is a field that is kept under it. -/
theorem LeftBehind.exists_kept (left : LeftBehind name requests) :
    ∃ key shared, ¬Setting.Named key ∧
      (empty.after requests).fields.get? (name, key) = some shared := by
  cases left with
  | refused split asked named starts refused undropped =>
      subst named
      obtain ⟨key, shared, free, kept⟩ := exists_kept_of_startsFine starts refused
      refine ⟨key, shared, free, ?_⟩
      rw [split, after_append]
      exact after_field_kept undropped ((perform_growth_of_type? asked).field_kept kept)

/-- A field that one request keeps under a name which had none was left behind by it, unless it
was asked for by itself or its schema is kept as well. -/
theorem refused_of_kept (indirect : ¬request.AsksField) (undropped : ¬request.Drops name)
    (unkept : ∀ key, ¬Setting.Named key → registry.fields.get? (name, key) = none)
    (missing : (registry.perform request).registry.schemas.get? name = none)
    (free : ¬Setting.Named key) {shared : Shared Field}
    (found : (registry.perform request).registry.fields.get? (name, key) = some shared) :
    ∃ type fault, request.type? = some type ∧ type.name = name ∧ type.StartsFine ∧
      (registry.resolve type).answer = .error fault := by
  by_cases asked : request.subject? = some name
  · obtain ⟨type, typed, rfl⟩ : ∃ type, request.type? = some type ∧ type.name = name := by
      cases request with
      | resolveField record key option => exact (indirect trivial).elim
      | invalidate record => cases asked
      | clear => cases asked
      | _ => exact ⟨_, rfl, Option.some.inj asked⟩
    cases answered : (registry.resolve type).answer with
    | ok schema =>
        rw [(perform_growth_of_type? typed).schema_kept (get?_of_resolve answered)] at missing
        cases missing
    | error fault =>
        rw [perform_of_refused typed answered] at found
        exact ⟨type, fault, typed, rfl, startsFine_of_kept unkept answered free found, answered⟩
  · rw [(perform_elsewhere undropped asked).2 key, unkept key free] at found
    cases found

/-- What is kept under a name without a schema was left behind, as long as no field is asked for by
itself. -/
theorem leftBehind_of_kept (indirect : ∀ request ∈ requests, ¬request.AsksField)
    (missing : (empty.after requests).schemas.get? name = none) (free : ¬Setting.Named key)
    {shared : Shared Field}
    (found : (empty.after requests).fields.get? (name, key) = some shared) :
    LeftBehind name requests := by
  induction requests using List.reverseRecOn generalizing key shared with
  | nil => cases found
  | append_singleton before request ih =>
      rw [after_append] at missing found
      change ((empty.after before).perform request).registry.schemas.get? name = none at missing
      change ((empty.after before).perform request).registry.fields.get? (name, key) =
        some shared at found
      have undropped : ¬request.Drops name := by
        intro drops
        rw [(vacant_of_drops drops).field key] at found
        cases found
      have missingBefore := schema_missing_of_perform undropped missing
      by_cases unkept : ∀ key, ¬Setting.Named key →
          (empty.after before).fields.get? (name, key) = none
      · obtain ⟨type, fault, asked, named, starts, refused⟩ := refused_of_kept
          (indirect request (by simp)) undropped unkept missing free found
        exact .refused rfl asked named starts refused fun later member =>
          (List.not_mem_nil member).elim
      · -- It was there before the last request, which has not dropped it.
        obtain ⟨other, notMissing⟩ := not_forall.mp unkept
        obtain ⟨otherFree, some⟩ := Classical.not_imp.mp notMissing
        obtain ⟨old, kept⟩ := Option.ne_none_iff_exists'.mp some
        exact (ih (fun request member => indirect request (List.mem_append_left _ member))
          missingBefore otherFree kept).append undropped

/-- **When a miss rebuilds.** After requests of which none asks for a single field, a name without
a schema is assembled anew, from whatever declaration it has by then, exactly when nothing was left
behind: since the name was last dropped, no lookup under it was refused whose first field was
fine. -/
theorem miss_rebuilds_iff (requests : List Request)
    (indirect : ∀ request ∈ requests, ¬request.AsksField) (name : String)
    (missing : (empty.after requests).isCached name = false) :
    (∀ type : RecordType, type.name = name →
      Rebuilds (empty.after requests) type ((empty.after requests).resolve type)) ↔
      ¬LeftBehind name requests := by
  have unkeptSchema : (empty.after requests).schemas.get? name = none :=
    Option.isSome_eq_false_iff.mp missing |> Option.isNone_iff_eq_none.mp
  rw [rebuilds_iff unkeptSchema]
  constructor
  · intro unkept left
    obtain ⟨key, shared, free, found⟩ := left.exists_kept
    rw [unkept key free] at found
    cases found
  · intro left key free
    cases found : (empty.after requests).fields.get? (name, key) with
    | none => rfl
    | some shared => exact (left (leftBehind_of_kept indirect unkeptSchema free found)).elim

end Registry

/-- A manuscript goes by the name of a volume; its second field has two types. -/
def manuscript : RecordType where
  name := "Volume"
  declared := .ok
    { entries := [("title", .tokens "string"), ("pages", .tokens "int32|float")]
      nodup := by simp }

/-- The manuscript is refused and then withdrawn. -/
def withdrawal : List Request := [.resolve manuscript, .invalidate "Volume"]

/-- A refused manuscript that has been withdrawn does not stand in the way of the reprint. -/
theorem Registry.miss_rebuilds_reprint :
    (∀ request ∈ withdrawal, ¬request.AsksField) ∧
      (empty.after withdrawal).isCached "Volume" = false ∧
      Rebuilds (empty.after withdrawal) reprint ((empty.after withdrawal).resolve reprint) := by
  have indirect : ∀ request ∈ withdrawal, ¬request.AsksField := by decide
  have missing : (empty.after withdrawal).isCached "Volume" = false := by decide
  have nothingLeft : ¬LeftBehind "Volume" withdrawal := by
    intro left
    cases left with
    | @refused before rest request type fault split asked named starts refused undropped =>
        rcases before with _ | ⟨first, _ | ⟨second, before⟩⟩
        · cases split
          exact undropped (.invalidate "Volume") List.mem_cons_self rfl
        · cases split
          cases asked
        · cases before <;> cases split
  exact ⟨indirect, missing,
    (miss_rebuilds_iff withdrawal indirect "Volume" missing).mpr nothingLeft reprint rfl⟩

/-- A schema that is not kept is not always assembled anew: the title of the refused manuscript is
taken for that of the reprint, which is declared with another type. -/
theorem Registry.miss_takes_stale_field :
    (∀ request ∈ [.resolve manuscript], ¬Request.AsksField request) ∧
      (empty.after [.resolve manuscript]).isCached reprint.name = false ∧
      ((empty.after [.resolve manuscript]).resolve reprint).answer.map
          (fun shared => shared.content.schema) ≠
        SearchCollection.assemble reprint := by
  refine ⟨by decide, by decide, fun same => ?_⟩
  have types := congrArg
    (fun answer => answer.toOption.map fun schema => schema.fields.map Field.type) same
  exact absurd types (by decide)

end SearchCollection
