import SearchCollection.Proofs.Registry.Lookups
import SearchCollection.Proofs.Registry.Requests
import SearchCollection.Proofs.Schema.Anonymous

/-! # A registry answers as if it kept nothing

As long as record types of one name differ in the identities of functions at most,
a kept schema or field is what assembling or resolving anew would give, up to
identities (`Registry.Sound`). Every request keeps this, also one that fails on the
way, and is therefore answered as without a registry (`perform_faithful`). By
induction on the requests the same holds of a whole run
(`Registry.answers_eq_direct`).
-/

namespace SearchCollection

/-- Record types of one name are the same but for the identities of functions. -/
def Consistent (types : RecordType → Prop) : Prop :=
  ∀ first second, types first → types second → first.name = second.name →
    first.anonymous = second.anonymous

/-- The option of the name occurs in the completed declaration of a record type. -/
def Declares (types : RecordType → Prop) (record name : String) (option : Normalized) : Prop :=
  ∃ type declaration, types type ∧ type.name = record ∧ type.declared = .ok declaration ∧
    Schema.anonymousEntry (name, option) ∈
      (type.normalized declaration).map Schema.anonymousEntry

/-- The request is about the record types only; a field is asked for with a declared option. -/
def Request.Within (types : RecordType → Prop) : Request → Prop
  | .resolve type | .collectionSchema type | .queryBy type | .warm type | .lint type
  | .document type _ => types type
  | .resolveField record name option => Declares types record name option
  | .invalidate _ | .clear => True

/-- The reply without the identities of functions. -/
def Reply.anonymous (reply : Reply Schema Field) : Reply Schema Field :=
  reply.map Schema.anonymous Field.anonymous

variable {types : RecordType → Prop} {registry : Registry} {type : RecordType}

/-- A name has one option at most, up to identities. -/
theorem Declares.anonymous_eq (consistent : Consistent types) {record name : String}
    {first second : Normalized} (declaresFirst : Declares types record name first)
    (declaresSecond : Declares types record name second) :
    first.anonymous = second.anonymous := by
  obtain ⟨typeA, declarationA, memberA, nameA, declaredA, occursA⟩ := declaresFirst
  obtain ⟨typeB, declarationB, memberB, nameB, declaredB, occursB⟩ := declaresSecond
  have same := consistent typeA typeB memberA memberB (nameA.trans nameB.symm)
  rw [← RecordType.normalized_congr same declaredA declaredB] at occursB
  have nodup :
      (((typeA.normalized declarationA).map Schema.anonymousEntry).map Prod.fst).Nodup := by
    rw [List.map_map]
    exact typeA.nodup_normalized declarationA
  have entries := List.inj_on_of_nodup_map nodup occursA occursB rfl
  exact congrArg Prod.snd entries

/-- Every declared entry of a record type is one that may be asked for. -/
theorem declares_of_mem {declaration : Declaration} {entry : String × Normalized}
    (member : types type) (declared : type.declared = .ok declaration)
    (entryMember : entry ∈ type.normalized declaration) :
    Declares types type.name entry.1 entry.2 :=
  ⟨type, declaration, member, rfl, declared, List.mem_map_of_mem entryMember⟩

namespace Registry

/-- What is kept is what would be assembled or resolved anew, up to identities. -/
structure Sound (types : RecordType → Prop) (registry : Registry) : Prop where
  schema {name : String} {shared : Shared KeptSchema}
    (found : registry.schemas.get? name = some shared) :
    ∃ type, types type ∧ type.name = name ∧
      (SearchCollection.assemble type).map Schema.anonymous =
        .ok shared.content.schema.anonymous
  field {record name : String} {shared : Shared Field}
    (found : registry.fields.get? (record, name) = some shared) :
    ∃ option, Declares types record name option ∧
      (Field.resolve record name option).map Field.anonymous = .ok shared.content.anonymous

/-- Where nothing is kept, all that is kept is right. -/
theorem sound_empty (types : RecordType → Prop) : Sound types empty where
  schema found := by cases found
  field found := by cases found

/-- Soundness is about what is kept and not about the counters. -/
theorem Sound.of_eq {other : Registry} (sound : Sound types registry)
    (schemas : other.schemas = registry.schemas) (fields : other.fields = registry.fields) :
    Sound types other where
  schema found := sound.schema (schemas ▸ found)
  field found := sound.field (fields ▸ found)

/-- To keep what a declared option resolves to leaves a sound registry. -/
theorem Sound.keepField (sound : Sound types registry) {record name : String}
    {option : Normalized} {field : Field} (declares : Declares types record name option)
    (resolved : Field.resolve record name option = .ok field) :
    Sound types (registry.keepField record name field) where
  schema found := sound.schema found
  field found := by
    rcases Cache.get?_of_get?_add found with before | ⟨same, rfl⟩
    · exact sound.field before
    · cases same
      exact ⟨option, declares, by rw [resolved]; rfl⟩

/-- To keep what a record type is assembled to leaves a sound registry. -/
theorem Sound.keepSchema (sound : Sound types registry) {schema : Schema}
    (fields : List (Shared Field)) (member : types type)
    (assembled : (SearchCollection.assemble type).map Schema.anonymous = .ok schema.anonymous) :
    Sound types (registry.keepSchema type.name schema fields) where
  schema found := by
    rcases Cache.get?_of_get?_add found with before | ⟨rfl, rfl⟩
    · exact sound.schema before
    · exact ⟨type, member, rfl, assembled⟩
  field found := sound.field found

/-- Dropping a name leaves a sound registry. -/
theorem Sound.invalidate (sound : Sound types registry) (record : String) :
    Sound types (registry.invalidate record).registry where
  schema found := sound.schema (Cache.get?_of_get?_drop found)
  field found := sound.field (Cache.get?_of_get?_drop found)

/-- Dropping everything leaves a sound registry. -/
theorem sound_clear (types : RecordType → Prop) (registry : Registry) :
    Sound types registry.clear.registry :=
  (sound_empty types).of_eq rfl rfl

/-- The outcome leaves a sound registry, and its answer is the expected one in the given view. -/
structure Outcome.Faithful {α β : Type} (types : RecordType → Prop) (outcome : Outcome α)
    (view : α → β) (expected : Except Fault β) : Prop where
  sound : Sound types outcome.registry
  answer : outcome.answer.map view = expected

/-- A faithful outcome becomes a faithful reply. -/
theorem Outcome.Faithful.reply {α β : Type} {outcome : Outcome α} {view : α → β}
    {expected : Except Fault β} {direct : Except Fault (Reply Schema Field)}
    (faithful : outcome.Faithful types view expected)
    (toReply : α → Reply (Shared KeptSchema) (Shared Field)) (target : β → Reply Schema Field)
    (follows : ∀ value, (toReply value).content.anonymous = target (view value))
    (same : expected.map target = direct.map Reply.anonymous) :
    (outcome.andThen fun value => .ok (toReply value)).Faithful types
      (fun reply => reply.content.anonymous) (direct.map Reply.anonymous) where
  sound := faithful.sound
  answer := by
    rw [← same, ← faithful.answer, Outcome.andThen]
    cases outcome.answer with
    | error fault => rfl
    | ok value => exact congrArg Except.ok (follows value)

/-- The lookup of a field with a declared option is answered as without a registry. -/
theorem resolveField_faithful (consistent : Consistent types) (sound : Sound types registry)
    {record name : String} {option : Normalized} (declares : Declares types record name option) :
    (registry.resolveField record name option).Faithful types
      (fun shared => shared.content.anonymous)
      ((Field.resolve record name option).map Field.anonymous) := by
  have lookup := registry.resolveField_lookup record name option
  generalize registry.resolveField record name option = outcome at lookup ⊢
  cases lookup with
  | kept found =>
      obtain ⟨other, otherDeclares, resolved⟩ := sound.field found
      refine ⟨sound.of_eq rfl rfl, ?_⟩
      rw [Field.resolve_congr record name (declares.anonymous_eq consistent otherDeclares),
        resolved]
      rfl
  | refused missing refused =>
      refine ⟨sound.of_eq rfl rfl, ?_⟩
      rw [refused]
      rfl
  | resolved missing resolved =>
      have missed : Sound types registry.fieldMiss := sound.of_eq rfl rfl
      refine ⟨missed.keepField declares resolved, ?_⟩
      rw [resolved]
      rfl

/-- Lookups of fields with declared options are answered as without a registry, with the same first
fault. -/
theorem resolveFields_faithful (consistent : Consistent types) (sound : Sound types registry)
    {record : String} {entries : List (String × Normalized)}
    (declares : ∀ entry ∈ entries, Declares types record entry.1 entry.2) :
    (registry.resolveFields record entries).Faithful types
      (List.map fun shared => shared.content.anonymous)
      ((Schema.resolveFields record entries).map (List.map Field.anonymous)) := by
  induction entries generalizing registry with
  | nil => exact ⟨sound, rfl⟩
  | cons entry rest ih =>
      obtain ⟨name, option⟩ := entry
      obtain ⟨headDeclared, restDeclared⟩ := List.forall_mem_cons.mp declares
      have head := resolveField_faithful consistent sound headDeclared
      have tail := ih head.sound restDeclared
      simp only [Registry.resolveFields, Schema.resolveFields]
      rcases fault_or_value_of_map_eq head.answer with
        ⟨fault, refused, resolved⟩ | ⟨shared, field, answered, resolved, same⟩
      · rw [refused, resolved]
        exact ⟨head.sound, rfl⟩
      · rw [answered, resolved]
        refine ⟨tail.sound, ?_⟩
        rcases fault_or_value_of_map_eq tail.answer with
          ⟨fault, refused, resolved⟩ | ⟨others, fields, answered, resolved, sameRest⟩
        · simp only [refused, resolved]
          rfl
        · simp only [answered, resolved]
          exact congrArg₂ (fun first rest => Except.ok (first :: rest)) same sameRest

/-- Fields that are those resolved anew, up to identities, make the schema that is assembled anew. -/
theorem assemble_of_fields {declaration : Declaration} (declared : type.declared = .ok declaration)
    {answer : Except Fault (List (Shared Field))}
    (same : answer.map (List.map fun shared => shared.content.anonymous) =
      (Schema.resolveFields type.name
        (Schema.fieldEntries (type.normalized declaration))).map (List.map Field.anonymous)) :
    (answer.bind fun fields => Schema.ofFields type.name (type.normalized declaration)
        (fields.map Shared.content)).map Schema.anonymous =
      (SearchCollection.assemble type).map Schema.anonymous := by
  rw [assemble_of_declared declared]
  rcases fault_or_value_of_map_eq same with
    ⟨fault, refused, resolved⟩ | ⟨shared, fields, answered, resolved, sameFields⟩
  · rw [refused, resolved]
    rfl
  · rw [answered, resolved]
    refine Schema.ofFields_congr type.name (type.normalized declaration) ?_
    rw [List.map_map]
    exact sameFields

/-- The schema of the fields that are looked up is the one that is assembled anew. -/
theorem lookUpFields_faithful (consistent : Consistent types) (sound : Sound types registry)
    (member : types type) {declaration : Declaration}
    (declared : type.declared = .ok declaration) :
    Sound types (registry.lookUpFields type declaration).registry ∧
      ((registry.lookUpFields type declaration).answer.bind fun fields =>
        Schema.ofFields type.name (type.normalized declaration)
          (fields.map Shared.content)).map Schema.anonymous =
        (SearchCollection.assemble type).map Schema.anonymous := by
  have missed : Sound types registry.schemaMiss := sound.of_eq rfl rfl
  have faithful := resolveFields_faithful consistent missed fun entry entryMember =>
    declares_of_mem member declared (Schema.mem_fieldEntries.mp entryMember).1
  exact ⟨faithful.sound, assemble_of_fields declared faithful.answer⟩

/-- The lookup of a schema is answered as by assembling it. -/
theorem resolve_faithful (consistent : Consistent types) (sound : Sound types registry)
    (member : types type) :
    (registry.resolve type).Faithful types (fun shared => shared.content.schema.anonymous)
      ((SearchCollection.assemble type).map Schema.anonymous) := by
  have lookup := registry.resolve_lookup type
  generalize registry.resolve type = outcome at lookup ⊢
  cases lookup with
  | kept found =>
      -- What is kept may come from another record type of the name, with functions of its own.
      refine ⟨sound.of_eq rfl rfl, ?_⟩
      obtain ⟨other, otherMember, name, assembled⟩ := sound.schema found
      rw [assemble_congr (consistent type other member otherMember name.symm), assembled]
      rfl
  | undeclared missing undeclared =>
      refine ⟨sound.of_eq rfl rfl, ?_⟩
      rw [assemble_eq_bind, undeclared]
      rfl
  | fieldRefused missing declared refused =>
      -- The fields before the one at fault stay, and are sound as they are.
      obtain ⟨left, answer⟩ := lookUpFields_faithful consistent sound member declared
      refine ⟨left, ?_⟩
      rw [← answer, refused]
      rfl
  | settingRefused missing declared resolved refused =>
      obtain ⟨left, answer⟩ := lookUpFields_faithful consistent sound member declared
      refine ⟨left, ?_⟩
      rw [← answer, resolved, Except.bind, refused]
      rfl
  | assembled missing declared resolved assembled =>
      obtain ⟨left, answer⟩ := lookUpFields_faithful consistent sound member declared
      rw [resolved, Except.bind, assembled] at answer
      exact ⟨left.keepSchema _ member answer.symm, answer⟩

/-- What is asked of a schema, and does not depend on identities, is answered as for the schema that
is assembled anew. -/
theorem bind_eq_of_anonymous {α : Type} {answer : Except Fault (Shared KeptSchema)}
    {assembled : Except Fault Schema} (ask : Schema → Except Fault α)
    (ignores : ∀ schema : Schema, ask schema.anonymous = ask schema)
    (same : answer.map (fun shared => shared.content.schema.anonymous) =
      assembled.map Schema.anonymous) :
    (answer.bind fun shared => ask shared.content.schema) = assembled.bind ask := by
  rcases fault_or_value_of_map_eq same with
    ⟨fault, refused, failed⟩ | ⟨shared, schema, answered, succeeded, sameSchema⟩
  · rw [refused, failed]
    rfl
  · rw [answered, succeeded, Except.bind, Except.bind, ← ignores shared.content.schema, sameSchema,
      ignores schema]

/-- What is asked of a schema that was looked up is answered as of one that is assembled, if the
identities of functions do not matter to the question. -/
theorem resolve_andThen_faithful (consistent : Consistent types) (sound : Sound types registry)
    (member : types type) {α : Type} (ask : Schema → Except Fault α)
    (ignores : ∀ schema : Schema, ask schema.anonymous = ask schema) :
    ((registry.resolve type).andThen fun shared => ask shared.content.schema).Faithful types id
      ((SearchCollection.assemble type).bind ask) := by
  have faithful := resolve_faithful consistent sound member
  refine ⟨faithful.sound, ?_⟩
  rw [Outcome.andThen, bind_eq_of_anonymous ask ignores faithful.answer]
  cases (SearchCollection.assemble type).bind ask <;> rfl

/-- The collection schema is answered as without a registry. -/
theorem collectionSchema_faithful (consistent : Consistent types) (sound : Sound types registry)
    (member : types type) :
    (registry.collectionSchema type).Faithful types id
      ((SearchCollection.assemble type).bind fun schema => .ok schema.collectionSchema) :=
  resolve_andThen_faithful consistent sound member (fun schema => .ok schema.collectionSchema)
    fun schema => by rw [schema.collectionSchema_anonymous]

/-- The default list of query fields is answered as without a registry. -/
theorem queryBy_faithful (consistent : Consistent types) (sound : Sound types registry)
    (member : types type) :
    (registry.queryBy type).Faithful types id
      ((SearchCollection.assemble type).bind Schema.queryBy) :=
  resolve_andThen_faithful consistent sound member Schema.queryBy Schema.queryBy_anonymous

/-- The document of a record is answered as without a registry. -/
theorem document_faithful (consistent : Consistent types) (sound : Sound types registry)
    (member : types type) (record : Record) :
    (registry.document type record).Faithful types id
      ((SearchCollection.assemble type).bind fun schema => .ok (schema.document record)) := by
  have faithful := resolve_andThen_faithful consistent sound member
    (fun schema => .ok (schema.document record))
    fun schema => by rw [schema.document_anonymous]
  exact ⟨faithful.sound, faithful.answer⟩

/-- Warming fails exactly where assembling or listing the query fields does, and with the same
fault. -/
theorem warm_faithful (consistent : Consistent types) (sound : Sound types registry)
    (member : types type) :
    (registry.warm type).Faithful types id
      ((SearchCollection.assemble type).bind fun schema => schema.queryBy.map fun _ => ()) := by
  have faithful := resolve_andThen_faithful consistent sound member
    (fun schema => schema.queryBy.map fun _ => ())
    fun schema => by rw [schema.queryBy_anonymous]
  exact ⟨faithful.sound, faithful.answer⟩

/-- The problems of a record type are those found without a registry. -/
theorem lint_faithful (consistent : Consistent types) (sound : Sound types registry)
    (member : types type) :
    (registry.lint type).Faithful types id (.ok type.problems) := by
  have first := resolve_faithful consistent sound member
  have second := queryBy_faithful consistent first.sound member
  have secondAnswer := second.answer
  simp only [lint, RecordType.problems]
  rcases fault_or_value_of_map_eq first.answer with
    ⟨fault, refused, assembled⟩ | ⟨shared, schema, answered, assembled, -⟩
  · rw [refused, assembled]
    exact ⟨first.sound, rfl⟩
  · rw [answered, ← secondAnswer]
    refine ⟨second.sound, ?_⟩
    cases ((registry.resolve type).registry.queryBy type).answer <;> rfl

/-- Every request leaves a sound registry, and is answered as without a registry. -/
theorem perform_faithful (consistent : Consistent types) (sound : Sound types registry)
    {request : Request} (within : request.Within types) :
    (registry.perform request).Faithful types (fun reply => reply.content.anonymous)
      (request.direct.map Reply.anonymous) := by
  cases request with
  | resolve type =>
      refine (resolve_faithful consistent sound within).reply .schema .schema (fun _ => rfl) ?_
      rw [Request.direct]
      cases SearchCollection.assemble type <;> rfl
  | collectionSchema type =>
      refine (collectionSchema_faithful consistent sound within).reply .collection .collection
        (fun _ => rfl) ?_
      rw [Request.direct]
      cases SearchCollection.assemble type <;> rfl
  | queryBy type =>
      refine (queryBy_faithful consistent sound within).reply .queryFields .queryFields
        (fun _ => rfl) ?_
      rw [Request.direct]
      cases (SearchCollection.assemble type).bind Schema.queryBy <;> rfl
  | warm type =>
      refine (warm_faithful consistent sound within).reply (fun _ => .done) (fun _ => .done)
        (fun _ => rfl) ?_
      rw [Request.direct]
      cases SearchCollection.assemble type with
      | error fault => rfl
      | ok schema =>
          rw [Except.bind, Except.bind]
          cases schema.queryBy <;> rfl
  | lint type =>
      exact (lint_faithful consistent sound within).reply .problems .problems (fun _ => rfl) rfl
  | document type record =>
      refine (document_faithful consistent sound within record).reply .document .document
        (fun _ => rfl) ?_
      rw [Request.direct]
      cases SearchCollection.assemble type <;> rfl
  | resolveField record name option =>
      refine (resolveField_faithful consistent sound within).reply .field .field
        (fun _ => rfl) ?_
      rw [Request.direct]
      cases Field.resolve record name option <;> rfl
  | invalidate record => exact ⟨sound.invalidate record, rfl⟩
  | clear => exact ⟨sound_clear types registry, rfl⟩

/-- A run of requests from a sound registry is answered as without a registry. -/
theorem answers_faithful (consistent : Consistent types) (sound : Sound types registry)
    {requests : List Request} (within : ∀ request ∈ requests, request.Within types) :
    (registry.answers requests).map (Except.map fun reply => reply.content.anonymous) =
      requests.map fun request => request.direct.map Reply.anonymous := by
  induction requests generalizing registry with
  | nil => rfl
  | cons request rest ih =>
      obtain ⟨headWithin, restWithin⟩ := List.forall_mem_cons.mp within
      have head := perform_faithful consistent sound headWithin
      rw [answers, List.map_cons, List.map_cons, head.answer, ih head.sound restWithin]

/-- **Caching is not observable.** Whatever is asked of a registry and in whatever order, the
answers are those without a registry, up to the identities of functions, as long as record types
of one name differ in identities at most and fields are asked for with declared options. -/
theorem answers_eq_direct (types : RecordType → Prop) (consistent : Consistent types)
    (requests : List Request) (within : ∀ request ∈ requests, request.Within types) :
    (Registry.empty.answers requests).map (Except.map fun reply => reply.content.anonymous) =
      requests.map fun request => request.direct.map Reply.anonymous :=
  answers_faithful consistent (sound_empty types) within

end Registry

/-- An option with a function that is a new object each time it is written down. -/
def shelfOption (identity : Nat) : FieldOption :=
  .list [.positional (.text "string"),
    .keyed "transformTo" (.transform ⟨identity, Value.castText⟩)]

def book (identity : Nat) : RecordType where
  name := "Book"
  declared := .ok
    { entries := [("title", .tokens "string|searchable"), ("shelf", shelfOption identity)]
      nodup := by simp }

/-- Drafts have a field at fault behind one that is resolved. -/
def draft : RecordType where
  name := "Draft"
  declared := .ok
    { entries := [("title", .tokens "string"), ("size", .tokens "int32|float")]
      nodup := by simp }

def Library (type : RecordType) : Prop :=
  type = draft ∨ ∃ identity, type = book identity

/-- The books of the library differ in the identities of their functions only. -/
theorem consistent_library : Consistent Library := by
  rintro first second (rfl | ⟨identity, rfl⟩) (rfl | ⟨other, rfl⟩) names
  · rfl
  · exact absurd names (by simp [draft, book])
  · exact absurd names (by simp [draft, book])
  · rfl

/-- The shelf of a book is declared by an option with a function of any identity. -/
theorem declares_library (identity : Nat) :
    Declares Library "Book" "shelf" (shelfOption identity).normalize := by
  refine ⟨book identity, _, .inr ⟨identity, rfl⟩, rfl, rfl, List.mem_map_of_mem ?_⟩
  refine List.mem_map.mpr ⟨("shelf", shelfOption identity), ?_, rfl⟩
  rw [RecordType.entries_complete]
  exact List.mem_append_left _ (List.mem_append_left _ (by simp))

/-- A run that hits, misses, fails half way and drops what is kept. -/
def libraryRun : List Request :=
  [.resolveField "Book" "shelf" (shelfOption 2).normalize, .resolve (book 3), .resolve (book 4),
    .lint draft, .warm draft, .invalidate "Book", .queryBy (book 5),
    .document (book 6) (AttributeRecord.toRecord ⟨"id", .ofList []⟩), .clear,
    .collectionSchema (book 7)]

/-- The run over the library is answered as without a registry. -/
theorem Registry.answers_eq_direct_library :
    Consistent Library ∧ (∀ request ∈ libraryRun, request.Within Library) ∧
      (Registry.empty.answers libraryRun).map (Except.map fun reply => reply.content.anonymous) =
        libraryRun.map fun request => request.direct.map Reply.anonymous := by
  have isBook (identity : Nat) : Library (book identity) := .inr ⟨identity, rfl⟩
  have isDraft : Library draft := .inl rfl
  have within : ∀ request ∈ libraryRun, request.Within Library := by
    simp only [libraryRun, List.forall_mem_cons]
    exact ⟨declares_library 2, isBook 3, isBook 4, isDraft, isDraft, trivial, isBook 5, isBook 6,
      trivial, isBook 7, fun _ member => (List.not_mem_nil member).elim⟩
  exact ⟨consistent_library, within,
    answers_eq_direct Library consistent_library libraryRun within⟩

end SearchCollection
