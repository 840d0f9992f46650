import Mathlib.Data.List.Forall2
import SearchCollection.Proofs.Field.Passes
import SearchCollection.Proofs.Registry.Runs

/-! # What is shared

The fields of a kept schema are kept as well, and are the same objects
(`Registry.Agrees`). What is kept is never replaced, only dropped, so lookups of
one key give one object as long as its name is not dropped. Objects handed out
after a drop are new: their stamps come after all that were given out before
(`Registry.Since`). `Registry.shared_objects` puts this together for every run.
-/

namespace SearchCollection

/-- The stamps of the objects that a reply hands out, the fields of a schema among them. -/
def Reply.stamps : Reply (Shared KeptSchema) (Shared Field) → List Nat
  | .schema shared => shared.stamp :: shared.content.fieldStamps
  | .field shared => [shared.stamp]
  | _ => []

namespace Registry

variable {name : String} {registry grown : Registry} {request : Request} {requests : List Request}

/-- The fields of the schema are kept under the name, each under its declared name, and are the
very objects that the schema has. -/
def SharesFields (registry : Registry) (name : String) (schema : KeptSchema) : Prop :=
  List.Forall₂ (fun (field : Field) (stamp : Nat) =>
    registry.fields.get? (name, field.declaredName) = some ⟨stamp, field⟩)
    schema.schema.fields schema.fieldStamps

/-- What both caches keep of one name fits together. -/
structure Agrees (registry : Registry) : Prop where
  declared {name key : String} {shared : Shared Field}
    (found : registry.fields.get? (name, key) = some shared) : shared.content.declaredName = key
  shares {name : String} {shared : Shared KeptSchema}
    (found : registry.schemas.get? name = some shared) :
    registry.SharesFields name shared.content

/-- Where nothing is kept, the two caches fit together. -/
theorem agrees_empty : Agrees empty where
  declared found := by cases found
  shares found := by cases found

/-- Sharing lasts where the fields of the name stay kept. -/
theorem SharesFields.mono {schema : KeptSchema} (shares : registry.SharesFields name schema)
    (keeps : ∀ {key shared}, registry.fields.get? (name, key) = some shared →
      grown.fields.get? (name, key) = some shared) : grown.SharesFields name schema :=
  List.Forall₂.imp (fun _ _ found => keeps found) shares

/-- Lookups keep the two caches fitting together. -/
theorem Agrees.growth (growth : Growth name registry grown) (agrees : Agrees registry) :
    Agrees grown := by
  induction growth with
  | refl => exact agrees
  | counted growth schemas fields stamp ih =>
      refine ⟨fun found => ih.declared (fields ▸ found), fun found => ?_⟩
      exact (ih.shares (schemas ▸ found)).mono fun kept => fields ▸ kept
  | field growth missing resolution ih =>
      refine ⟨fun found => ?_, fun found => (ih.shares found).mono Cache.get?_add_of_get?⟩
      rcases Cache.get?_of_get?_add found with before | ⟨same, rfl⟩
      · exact ih.declared before
      · cases same
        exact Field.declaredName_of_resolve resolution
  | schema growth missing kept same ih =>
      refine ⟨ih.declared, fun found => ?_⟩
      rcases Cache.get?_of_get?_add found with before | ⟨rfl, rfl⟩
      · exact ih.shares before
      · unfold SharesFields sharedSchema
        rw [same, List.forall₂_map_left_iff, List.forall₂_map_right_iff, List.forall₂_same]
        intro shared member
        obtain ⟨key, found⟩ := kept shared member
        rw [ih.declared found]
        exact found

/-- Since a schema and its fields are dropped together, the two caches still fit afterwards. -/
theorem Agrees.invalidate (agrees : Agrees registry) (name : String) :
    Agrees (registry.invalidate name).registry where
  declared found := agrees.declared (Cache.get?_of_get?_drop found)
  shares {other shared} found := by
    by_cases same : other = name
    · rw [same, (registry.vacant_invalidate name).schema] at found
      cases found
    · rw [registry.schema_invalidate_of_ne same] at found
      refine (agrees.shares found).mono fun kept => ?_
      rw [registry.field_invalidate_of_ne same, kept]

/-- Two caches without anything in them fit together. -/
theorem agrees_clear (registry : Registry) : Agrees registry.clear.registry where
  declared found := by cases found
  shares found := by cases found

/-- After every request the two caches still fit together. -/
theorem perform_agrees (request : Request) (registry : Registry) (agrees : Agrees registry) :
    Agrees (registry.perform request).registry :=
  perform_preserves (fun growth agrees => agrees.growth growth)
    (fun name agrees => agrees.invalidate name) (fun _ => agrees_clear _) request registry agrees

/-- After every run of requests the two caches still fit together. -/
theorem after_agrees (requests : List Request) (agrees : Agrees registry) :
    Agrees (registry.after requests) :=
  after_preserves (fun request _ => perform_agrees request) agrees

/-- An object with the stamp is kept under the name. -/
inductive Holds (registry : Registry) (name : String) : Nat → Prop where
  | schema {shared : Shared KeptSchema} (found : registry.schemas.get? name = some shared) :
      Holds registry name shared.stamp
  | field {key : String} {shared : Shared Field}
      (found : registry.fields.get? (name, key) = some shared) : Holds registry name shared.stamp

/-- All that is kept under the name has a stamp that was given out since the given one. -/
structure Since (name : String) (start : Nat) (registry : Registry) : Prop where
  started : start ≤ registry.nextStamp
  bounds {stamp : Nat} (held : registry.Holds name stamp) :
    start ≤ stamp ∧ stamp < registry.nextStamp

/-- Where nothing is kept under a name, nothing that is kept under it is older than the next
stamp. -/
theorem Vacant.since (vacant : Vacant name registry) : Since name registry.nextStamp registry where
  started := Nat.le_refl _
  bounds held := by
    cases held with
    | schema found =>
        rw [vacant.schema] at found
        cases found
    | field found =>
        rw [vacant.field] at found
        cases found

/-- One new object does not hurt: its stamp is the next one, whatever it is kept under. -/
theorem Since.next {start : Nat} (since : Since name start registry)
    (given : grown.nextStamp = registry.nextStamp + 1)
    (kept : ∀ {stamp}, grown.Holds name stamp →
      registry.Holds name stamp ∨ stamp = registry.nextStamp) : Since name start grown := by
  have started := since.started
  refine ⟨by omega, fun held => ?_⟩
  rcases kept held with before | rfl
  · have bounds := since.bounds before
    omega
  · omega

/-- Lookups give out new stamps only, so that what is kept of the name has one since the same
start. -/
theorem Since.growth {start : Nat} {owner : String} (growth : Growth owner registry grown)
    (since : Since name start registry) : Since name start grown := by
  induction growth with
  | refl => exact since
  | counted growth schemas fields stamp ih =>
      refine ⟨stamp ▸ ih.started, fun held => stamp ▸ ih.bounds ?_⟩
      cases held with
      | schema found => exact .schema (schemas ▸ found)
      | field found => exact .field (fields ▸ found)
  | field growth missing resolution ih =>
      refine ih.next rfl fun held => ?_
      cases held with
      | schema found => exact .inl (.schema found)
      | field found =>
          rcases Cache.get?_of_get?_add found with before | ⟨-, rfl⟩
          · exact .inl (.field before)
          · exact .inr rfl
  | schema growth missing kept same ih =>
      refine ih.next rfl fun held => ?_
      cases held with
      | field found => exact .inl (.field found)
      | schema found =>
          rcases Cache.get?_of_get?_add found with before | ⟨-, rfl⟩
          · exact .inl (.schema before)
          · exact .inr rfl

/-- Dropping a name brings back no stamp. -/
theorem Since.invalidate {start : Nat} (since : Since name start registry) (dropped : String) :
    Since name start (registry.invalidate dropped).registry where
  started := since.started
  bounds held := by
    refine since.bounds ?_
    cases held with
    | schema found => exact .schema (Cache.get?_of_get?_drop found)
    | field found => exact .field (Cache.get?_of_get?_drop found)

/-- Dropping everything brings back no stamp. -/
theorem Since.clear {start : Nat} (since : Since name start registry) :
    Since name start registry.clear.registry where
  started := since.started
  bounds held := by
    cases held with
    | schema found => cases found
    | field found => cases found

/-- No request brings back a stamp from before the start. -/
theorem perform_since {start : Nat} (request : Request) (registry : Registry)
    (since : Since name start registry) :
    Since name start (registry.perform request).registry :=
  perform_preserves (fun growth since => since.growth growth)
    (fun dropped since => since.invalidate dropped) (fun since => since.clear) request registry since

/-- No run of requests brings back a stamp from before the start. -/
theorem after_since {start : Nat} (requests : List Request) (since : Since name start registry) :
    Since name start (registry.after requests) :=
  after_preserves (fun request _ => perform_since request) since

/-- The objects that the fields of a kept schema are have their stamps in the cache of fields. -/
theorem SharesFields.holds {schema : KeptSchema} (shares : registry.SharesFields name schema) :
    ∀ stamp ∈ schema.fieldStamps, registry.Holds name stamp := by
  intro stamp member
  obtain ⟨position, inside, rfl⟩ := List.getElem_of_mem member
  have found := shares.get (by rw [shares.length_eq]; exact inside) inside
  exact .field found

/-- A good answer to what is asked of an outcome comes from a good answer. -/
theorem Outcome.exists_of_andThen {α β : Type} {outcome : Outcome α} {next : α → Except Fault β}
    {result : β} (answered : (outcome.andThen next).answer = .ok result) :
    ∃ value, outcome.answer = .ok value ∧ next value = .ok result := by
  unfold andThen at answered
  cases given : outcome.answer with
  | error fault =>
      rw [given] at answered
      cases answered
  | ok value =>
      rw [given] at answered
      exact ⟨value, rfl, answered⟩

/-- What a reply hands out is kept under the name that was asked for. -/
theorem holds_of_perform (agrees : Agrees registry) (asked : request.subject? = some name)
    {reply : Reply (Shared KeptSchema) (Shared Field)}
    (answered : (registry.perform request).answer = .ok reply) :
    ∀ stamp ∈ reply.stamps, (registry.perform request).registry.Holds name stamp := by
  have agreesAfter := perform_agrees request registry agrees
  cases request with
  | resolve type =>
      cases asked
      obtain ⟨shared, given, same⟩ := Outcome.exists_of_andThen answered
      cases same
      have found := get?_of_resolve given
      exact List.forall_mem_cons.mpr ⟨.schema found, (agreesAfter.shares found).holds⟩
  | resolveField record key option =>
      cases asked
      obtain ⟨shared, given, same⟩ := Outcome.exists_of_andThen answered
      cases same
      exact List.forall_mem_singleton.mpr (.field (get?_of_resolveField given))
  | _ =>
      obtain ⟨_, -, same⟩ := Outcome.exists_of_andThen answered
      cases same
      exact fun stamp member => (List.not_mem_nil member).elim

/-- The stamps of what a reply hands out were given out since the given one, if all that is kept
under the name was. -/
theorem bounds_of_perform {start : Nat} (agrees : Agrees registry)
    (since : Since name start registry) (asked : request.subject? = some name)
    {reply : Reply (Shared KeptSchema) (Shared Field)}
    (answered : (registry.perform request).answer = .ok reply) :
    ∀ stamp ∈ reply.stamps,
      start ≤ stamp ∧ stamp < (registry.perform request).registry.nextStamp := by
  intro stamp member
  have held := holds_of_perform agrees asked answered stamp member
  exact (perform_since request registry since).bounds held

/-- A stamp that has been given out is not given out again. -/
theorem nextStamp_le_perform (registry : Registry) (request : Request) :
    registry.nextStamp ≤ (registry.perform request).registry.nextStamp :=
  perform_preserves (motive := fun last => registry.nextStamp ≤ last.nextStamp)
    (fun growth le => Nat.le_trans le growth.nextStamp_le) (fun _ le => le) (fun le => le)
    request registry (Nat.le_refl _)

/-- A stamp that has been given out is not given out again in any run. -/
theorem nextStamp_le_after (registry : Registry) (requests : List Request) :
    registry.nextStamp ≤ (registry.after requests).nextStamp :=
  after_preserves (motive := fun last => registry.nextStamp ≤ last.nextStamp)
    (fun request _ last le => Nat.le_trans le (last.nextStamp_le_perform request)) (Nat.le_refl _)

/-- After a name has been dropped, only new objects are handed out under it. -/
theorem stamps_disjoint {earlier drop later : Request} {between rest : List Request}
    (agrees : Agrees registry) (since : Since name 0 registry)
    (askedEarlier : earlier.subject? = some name) (drops : drop.Drops name)
    (askedLater : later.subject? = some name)
    {first second : Reply (Shared KeptSchema) (Shared Field)}
    (answeredEarlier : (registry.perform earlier).answer = .ok first)
    (answeredLater : ((registry.after (earlier :: between ++ drop :: rest)).perform later).answer =
      .ok second) :
    first.stamps.Disjoint second.stamps := by
  -- The next stamp just after the drop parts the two replies.
  have split : registry.after (earlier :: between ++ drop :: rest) =
      ((registry.after (earlier :: between)).perform drop).registry.after rest :=
    registry.after_append (earlier :: between) (drop :: rest)
  rw [split] at answeredLater
  have agreesDropped := perform_agrees drop _ (after_agrees (earlier :: between) agrees)
  have vacant : Vacant name ((registry.after (earlier :: between)).perform drop).registry :=
    vacant_of_drops drops
  have given : (registry.perform earlier).registry.nextStamp ≤
      ((registry.after (earlier :: between)).perform drop).registry.nextStamp :=
    Nat.le_trans (nextStamp_le_after _ between) (nextStamp_le_perform _ drop)
  intro stamp memberFirst memberSecond
  have before := bounds_of_perform agrees since askedEarlier answeredEarlier stamp memberFirst
  have behind := bounds_of_perform (after_agrees rest agreesDropped)
    (after_since rest vacant.since) askedLater answeredLater stamp memberSecond
  omega

/-- **What is shared.** After whatever requests, each field of a kept schema is kept under its
declared name and is the very object of the schema. What is kept stays the same object until its
name is dropped, and then all of the name is gone. So two lookups of a schema or of a field give
one object unless the name is dropped between them; after a drop, no object that was handed out
under the name before is handed out under it again. -/
theorem shared_objects (history : List Request) (name : String) :
    (∀ shared, (empty.after history).schemas.get? name = some shared →
      List.Forall₂ (fun (field : Field) (stamp : Nat) =>
        (empty.after history).fields.get? (name, field.declaredName) = some ⟨stamp, field⟩)
        shared.content.schema.fields shared.content.fieldStamps) ∧
    (∀ request : Request, ¬request.Drops name →
      (∀ shared, (empty.after history).schemas.get? name = some shared →
        ((empty.after history).perform request).registry.schemas.get? name = some shared) ∧
      ∀ key shared, (empty.after history).fields.get? (name, key) = some shared →
        ((empty.after history).perform request).registry.fields.get? (name, key) =
          some shared) ∧
    (∀ request : Request, request.Drops name →
      Vacant name ((empty.after history).perform request).registry) ∧
    (∀ (first second : RecordType) (between : List Request) (shared : Shared KeptSchema),
      first.name = name → second.name = name → (∀ request ∈ between, ¬request.Drops name) →
      ((empty.after history).resolve first).answer = .ok shared →
      ((((empty.after history).resolve first).registry.after between).resolve second).answer =
        .ok shared) ∧
    (∀ (key : String) (first second : Normalized) (between : List Request)
      (shared : Shared Field), (∀ request ∈ between, ¬request.Drops name) →
      ((empty.after history).resolveField name key first).answer = .ok shared →
      ((((empty.after history).resolveField name key first).registry.after between).resolveField
        name key second).answer = .ok shared) ∧
    ∀ (earlier drop later : Request) (between rest : List Request)
      (first second : Reply (Shared KeptSchema) (Shared Field)),
      earlier.subject? = some name → drop.Drops name → later.subject? = some name →
      ((empty.after history).perform earlier).answer = .ok first →
      (((empty.after history).after (earlier :: between ++ drop :: rest)).perform later).answer =
        .ok second →
      first.stamps.Disjoint second.stamps := by
  have agrees : Agrees (empty.after history) := after_agrees history agrees_empty
  have since : Since name 0 (empty.after history) :=
    after_since history (vacant_empty name).since
  refine ⟨fun shared found => agrees.shares found, fun request undropped => ⟨?_, ?_⟩,
    fun request drops => vacant_of_drops drops, ?_, ?_, ?_⟩
  · exact fun shared found => perform_schema_kept undropped found
  · exact fun key shared found => perform_field_kept undropped found
  · rintro first second between shared rfl same undropped answered
    refine resolve_of_get? ?_
    rw [same]
    exact after_schema_kept undropped (get?_of_resolve answered)
  · intro key first second between shared undropped answered
    exact resolveField_of_get? (after_field_kept undropped (get?_of_resolveField answered)) second
  · intro earlier drop later between rest first second askedEarlier drops askedLater
    exact stamps_disjoint agrees since askedEarlier drops askedLater

end Registry

/-- A volume is looked up, dropped and replaced by its reprint, and the two hand out different
objects. -/
theorem Registry.shared_objects_reprint :
    (∃ shared, (empty.after [.warm volume]).schemas.get? "Volume" = some shared ∧
      List.Forall₂ (fun (field : Field) (stamp : Nat) =>
        (empty.after [.warm volume]).fields.get? ("Volume", field.declaredName) =
          some ⟨stamp, field⟩)
        shared.content.schema.fields shared.content.fieldStamps) ∧
    (∃ shared, ((empty.after []).resolve volume).answer = .ok shared ∧
      ((((empty.after []).resolve volume).registry.after [.invalidate "Page"]).resolve
        reprint).answer = .ok shared) ∧
    ∃ first second, ((empty.after []).perform (.resolve volume)).answer = .ok first ∧
      (((empty.after []).after [.resolve volume, .lint reprint, .invalidate "Volume",
        .resolveField "Volume" "title" (FieldOption.tokens "int32").normalize]).perform
        (.resolve reprint)).answer = .ok second ∧
      first.stamps.Disjoint second.stamps := by
  refine ⟨?_, ?_, ?_⟩
  · obtain ⟨shares, -⟩ := shared_objects [.warm volume] "Volume"
    obtain ⟨shared, answered⟩ := exists_eq_ok_of_isOk
      (show (empty.resolve volume).answer.isOk = true by decide)
    have found := get?_of_resolve answered
    exact ⟨shared, found, shares shared found⟩
  · obtain ⟨-, -, -, resolves, -⟩ := shared_objects [] "Volume"
    obtain ⟨shared, answered⟩ := exists_eq_ok_of_isOk
      (show (empty.resolve volume).answer.isOk = true by decide)
    exact ⟨shared, answered,
      resolves volume reprint [.invalidate "Page"] shared rfl rfl (by decide) answered⟩
  · obtain ⟨-, -, -, -, -, fresh⟩ := shared_objects [] "Volume"
    obtain ⟨first, answeredFirst⟩ := exists_eq_ok_of_isOk
      (show ((empty.after []).perform (.resolve volume)).answer.isOk = true by decide)
    obtain ⟨second, answeredSecond⟩ := exists_eq_ok_of_isOk
      (show (((empty.after []).after [.resolve volume, .lint reprint, .invalidate "Volume",
        .resolveField "Volume" "title" (FieldOption.tokens "int32").normalize]).perform
        (.resolve reprint)).answer.isOk = true by decide)
    exact ⟨first, second, answeredFirst, answeredSecond,
      fresh (.resolve volume) (.invalidate "Volume") (.resolve reprint) [.lint reprint] _ first
        second rfl rfl rfl answeredFirst answeredSecond⟩

end SearchCollection
