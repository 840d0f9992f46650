import Mathlib.Data.List.Nodup
import SearchCollection.Proofs.Entries
import SearchCollection.Proofs.Time.Written
import SearchCollection.Proofs.Traversal
import SearchCollection.Record.Json

/-! # Points in time in records

What is read for an attribute does not depend on the other attributes, as long as they can be read
at all (`AttributeRecord.readsAs_iff`). A point in time that was written to a document is read back
without its fraction of a second, and one that was given as whole seconds as it was
(`AttributeRecord.instants_return`), in all the years that are written with four digits. Only a leap
second inside a minute is not read back, since it is written as the second that comes next
(`AttributeRecord.strayLeapSecond_not_returned`).
-/

namespace SearchCollection

namespace Instant

/-- Every second of the years with four digits is a point in time. -/
theorem exists_of? {seconds : Int} (low : 0 ≤ (Date.ofDays (seconds / 86400)).year)
    (high : (Date.ofDays (seconds / 86400)).year ≤ 9999) :
    ∃ instant, of? seconds 0 = some instant ∧ instant.seconds = seconds ∧ instant.nanos = 0 := by
  obtain ⟨first, last⟩ := (Date.year_ofDays_mem_iff (seconds / 86400)).mp ⟨low, high⟩
  have bounds : -8334601228800 ≤ seconds ∧ seconds ≤ 8210266876799 := by omega
  unfold of?
  rw [dif_pos ⟨bounds, by decide, by omega⟩]
  exact ⟨_, rfl, rfl, rfl⟩

end Instant

namespace AttributeRecord

variable {instants : List String} {name : String} {json : Json} {value : Value}

theorem readAttributes_eq_mapM (members : List (String × Json)) :
    readAttributes instants members = members.mapM fun member =>
      (readAttribute instants member.1 member.2).map fun value => (member.1, value) := by
  induction members with
  | nil => rfl
  | cons member rest ih =>
      rw [readAttributes, ih, List.mapM_cons]
      cases readAttribute instants member.1 member.2 <;> rfl

/-- The attributes of an object can be read exactly when each of them can. -/
theorem exists_readAttributes_iff {members : List (String × Json)} :
    (∃ attributes, readAttributes instants members = .ok attributes) ↔
      ∀ member ∈ members, ∃ value, readAttribute instants member.1 member.2 = .ok value := by
  rw [readAttributes_eq_mapM, exists_mapM_eq_ok_iff]
  refine forall₂_congr fun member _ => ?_
  cases readAttribute instants member.1 member.2 <;> simp [Except.map]

/-- Each attribute that was read stands under its name. -/
theorem get?_readAttributes {members : List (String × Json)} {attributes : List (String × Value)}
    (read : readAttributes instants members = .ok attributes)
    (nodup : (members.map Prod.fst).Nodup) (name : String) :
    Entries.get? name (Entries.ofList attributes) = (Entries.get? name members).bind fun json =>
      (readAttribute instants name json).toOption := by
  rw [readAttributes_eq_mapM, mapM_eq_ok_iff] at read
  have each : List.Forall₂ (fun member entry => entry.1 = member.1 ∧
      readAttribute instants member.1 member.2 = .ok entry.2) members attributes := by
    refine read.imp fun member entry made => ?_
    obtain ⟨value, passed, rfl⟩ := map_eq_ok_iff.mp made
    exact ⟨rfl, passed⟩
  have keys := Entries.keys_of_forall₂ each
  rw [Entries.get?_ofList_of_nodup (keys ▸ nodup), Entries.get?_of_forall₂ each]

/-- In every object that has the attribute the given value is read for it, unless another
attribute cannot be read. -/
def ReadsAs (instants : List String) (name : String) (json : Json) (value : Value) : Prop :=
  ∀ (members : List (String × Json)) (primaryKey : String),
    (members.map Prod.fst).Nodup → (name, json) ∈ members →
    (∀ member ∈ members, member.1 ≠ name →
      ∃ other, readAttribute instants member.1 member.2 = .ok other) →
    ∃ record, ofJson (.object members) primaryKey instants = .ok record ∧ record.get name = value

/-- An attribute is read in an object as it is read by itself. -/
theorem readsAs_iff :
    ReadsAs instants name json value ↔ readAttribute instants name json = .ok value := by
  constructor
  · intro reads
    obtain ⟨record, made, found⟩ := reads [(name, json)] name (List.nodup_singleton name)
      (List.mem_singleton_self _) fun member alone other =>
        (other (congrArg Prod.fst (List.mem_singleton.mp alone))).elim
    cases answer : readAttribute instants name json with
    | error fault =>
        simp [ofJson, readAttributes, answer, bind, Except.bind] at made
    | ok read =>
        simp only [ofJson, readAttributes, answer, bind, Except.bind, pure, Except.pure,
          Except.ok.injEq] at made
        subst made
        rw [← found, get, Entries.ofList, List.foldl_cons, List.foldl_nil, Entries.get?_insert,
          if_pos rfl, Option.getD_some]
  · intro read members primaryKey nodup member others
    have each : ∀ entry ∈ members,
        ∃ value, readAttribute instants entry.1 entry.2 = .ok value := by
      intro entry given
      by_cases same : entry.1 = name
      · rw [List.inj_on_of_nodup_map nodup given member same]
        exact ⟨value, read⟩
      · exact others entry given same
    obtain ⟨attributes, made⟩ := exists_readAttributes_iff.mpr each
    have found := (Entries.get?_eq_some_iff_of_nodup nodup).mpr member
    refine ⟨⟨primaryKey, Entries.ofList attributes⟩, by rw [ofJson, made], ?_⟩
    rw [get, get?_readAttributes made nodup, found, Option.bind_some, read]
    rfl

/-- A point in time is read from a tree that stands for one. -/
theorem readAttribute_of_instant? (listed : name ∈ instants) {instant : Instant}
    (stands : instant? json = some instant) :
    readAttribute instants name json = .ok (.instant instant) := by
  rw [readAttribute, if_pos (List.contains_iff_mem.mpr listed), readInstant, stands]
  rintro rfl
  cases stands

/-- The text of a point in time is read as the point that it tells. -/
theorem readsAs_written (listed : name ∈ instants) {instant : Instant}
    (low : 0 ≤ instant.date.year) (high : instant.date.year ≤ 9999) :
    ReadsAs instants name (Value.instant instant).toJson (.instant instant.told) :=
  readsAs_iff.mpr (readAttribute_of_instant? listed (instant.read?_write low high))

/-- **Points in time in documents are read back.** In the years that are written with four digits,
the text that a document has for a point in time is read as that point without its fraction of a
second, where a leap second after the last second of a minute stays one. A leap second inside a
minute is read as the second that comes next. A count of seconds is read as the point in time that
it counts to, and the text of that point is read as the same one. -/
theorem instants_return (listed : name ∈ instants) :
    (∀ instant : Instant, 0 ≤ instant.date.year → instant.date.year ≤ 9999 →
      (instant.LeapLast →
        ReadsAs instants name (Value.instant instant).toJson (.instant instant.truncated) ∧
        instant.truncated.seconds = instant.seconds ∧
        instant.truncated.second = instant.second ∧ instant.truncated.fraction = 0) ∧
      (¬instant.LeapLast → ∃ next : Instant,
        ReadsAs instants name (Value.instant instant).toJson (.instant next) ∧
        next.seconds = instant.seconds + 1 ∧ next.nanos = 0)) ∧
    ∀ seconds : Int, 0 ≤ (Date.ofDays (seconds / 86400)).year →
      (Date.ofDays (seconds / 86400)).year ≤ 9999 →
      ∃ instant : Instant,
        ReadsAs instants name (.number (.integer seconds)) (.instant instant) ∧
        ReadsAs instants name (Value.instant instant).toJson (.instant instant) ∧
        instant.toInt64.toInt = seconds := by
  constructor
  · intro instant low high
    have back := readsAs_written listed low high
    constructor
    · intro last
      rw [Instant.told_of_leapLast last] at back
      exact ⟨back, rfl, Instant.second_truncated, Instant.fraction_truncated⟩
    · intro stray
      exact ⟨instant.told, back, Instant.seconds_told_of_not_leapLast stray,
        Instant.nanos_told_of_not_leapLast stray⟩
  · intro seconds low high
    obtain ⟨instant, counted, rfl, whole⟩ := Instant.exists_of? low high
    have back := readsAs_written listed low high
    rw [Instant.told_of_whole whole] at back
    refine ⟨instant, ?_, back, instant.toInt_toInt64⟩
    exact readsAs_iff.mpr (readAttribute_of_instant? listed counted)

/-- A quarter of a second into the leap second that could have been at the end of 1969. -/
def leapSecond : Instant :=
  ⟨-1, 1250000000, by decide, by decide, by decide⟩

/-- A quarter of a second into a leap second after the fourth second of 1970. -/
def strayLeapSecond : Instant :=
  ⟨4, 1250000000, by decide, by decide, by decide⟩

/-- The leap second at the end of 1969 returns, the stray one returns as the next second, and whole
seconds of the year 0 return as they are. -/
theorem instants_return_leapSecond :
    (∃ record : AttributeRecord,
      ofJson (.object [("born", .string "1969-12-31T23:59:60Z"), ("id", .number (.integer 7))])
        "id" ["born"] = .ok record ∧ record.get "born" = .instant leapSecond.truncated) ∧
    (∃ next : Instant,
      ReadsAs ["born"] "born" (Value.instant strayLeapSecond).toJson (.instant next) ∧
      next.seconds = 5 ∧ next.nanos = 0) ∧
    ∃ instant : Instant,
      ReadsAs ["born"] "born" (.number (.integer (-62167219200))) (.instant instant) ∧
      ReadsAs ["born"] "born" (Value.instant instant).toJson (.instant instant) ∧
      instant.toInt64.toInt = -62167219200 := by
  obtain ⟨written, counted⟩ := instants_return (List.mem_singleton_self "born")
  obtain ⟨-, moved⟩ := written strayLeapSecond (by decide) (by decide)
  refine ⟨?_, moved (by decide), counted (-62167219200) (by decide) (by decide)⟩
  have text : (Value.instant leapSecond).toJson = .string "1969-12-31T23:59:60Z" := by
    rw [Value.toJson, show leapSecond.write = "1969-12-31T23:59:60Z" from by decide +kernel]
  obtain ⟨returned, -⟩ := written leapSecond (by decide) (by decide)
  obtain ⟨reads, -⟩ := returned (by decide)
  rw [text] at reads
  apply reads _ _ (by decide) List.mem_cons_self
  intro member listed other
  rcases List.mem_cons.mp listed with rfl | last
  · exact (other rfl).elim
  · rw [List.mem_singleton.mp last]
    exact ⟨.int 7, rfl⟩

/-- A leap second inside a minute is written as the second that comes next and is not read back. -/
theorem strayLeapSecond_not_returned :
    (0 ≤ strayLeapSecond.date.year ∧ strayLeapSecond.date.year ≤ 9999) ∧
    (Value.instant strayLeapSecond).toJson = .string "1970-01-01T00:00:05Z" ∧
    ∃ record : AttributeRecord,
      ofJson (.object [("born", .string "1970-01-01T00:00:05Z")]) "id" ["born"] = .ok record ∧
      record.get "born" = .instant ⟨5, 0, by decide, by decide, by decide⟩ ∧
      record.get "born" ≠ .instant strayLeapSecond.truncated := by
  have years : 0 ≤ strayLeapSecond.date.year ∧ strayLeapSecond.date.year ≤ 9999 := by decide
  have text : (Value.instant strayLeapSecond).toJson = .string "1970-01-01T00:00:05Z" := by
    rw [Value.toJson, show strayLeapSecond.write = "1970-01-01T00:00:05Z" from by decide +kernel]
  have reads := readsAs_written (List.mem_singleton_self "born") years.1 years.2
  rw [text] at reads
  obtain ⟨record, made, found⟩ := reads [("born", .string "1970-01-01T00:00:05Z")] "id" (by decide)
    List.mem_cons_self fun member alone other =>
      (other (congrArg Prod.fst (List.mem_singleton.mp alone))).elim
  have told : strayLeapSecond.told = ⟨5, 0, by decide, by decide, by decide⟩ := by decide
  refine ⟨years, text, record, made, told ▸ found, ?_⟩
  rw [found, told]
  intro same
  exact absurd (Value.instant.inj same) (by decide)

end AttributeRecord

end SearchCollection
