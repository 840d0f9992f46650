import SearchCollection.Document
import SearchCollection.Proofs.Cast.Forms

/-! # Instants before they are cast

A field without a function of its own whose type is an integer or not known takes an instant as
its seconds before the value is cast (`ValueTransform.apply`). An integer type makes the same
of an instant by itself, so only a field whose type is not known depends on it
(`FieldType.cast_apply_identity`). A function that gives back what it gets therefore makes a
difference in this one case (`castFieldLogged_giving_back`).
-/

namespace SearchCollection

namespace ValueTransform

/-- Only an instant is changed without a function. -/
theorem apply_identity_of_ne {value : Value} (other : ∀ instant, value ≠ .instant instant)
    (type : FieldType) : identity.apply type value = value := by
  cases value with
  | instant instant => exact (other instant rfl).elim
  | _ => cases type <;> rfl

end ValueTransform

namespace FieldType

/-- Where the type is known, it makes no difference that an instant is taken as its seconds
first. -/
theorem cast_apply_identity {type : FieldType} (known : type ≠ .auto) (value : Value) :
    type.cast (ValueTransform.identity.apply type value) = type.cast value := by
  by_cases timed : ∃ instant, value = .instant instant
  · obtain ⟨instant, rfl⟩ := timed
    cases type with
    | auto => exact (known rfl).elim
    | _ => rfl
  · rw [ValueTransform.apply_identity_of_ne fun instant same => timed ⟨instant, same⟩]

end FieldType

variable {callback : Callback Value Value}

/-- A field with a function that gives back what it gets has the cast of what its source gives. -/
theorem castFieldValue_giving_back (returns : ∀ value, callback.run value = value)
    (record : Record) (type : FieldType) (source : ValueSource) :
    castFieldValue record type (.custom callback) source = type.cast (source.value record) := by
  rw [castFieldValue, ValueTransform.apply, returns]

/-- The log is told of the value and of nothing else, so it tells two values apart just as the
fields do. -/
theorem castFieldLogged_eq_iff {record : Record} {field : String} {type : FieldType}
    {first second : ValueTransform} {source : ValueSource} :
    castFieldLogged record field type first source =
        castFieldLogged record field type second source ↔
      castFieldValue record type first source = castFieldValue record type second source := by
  constructor
  · exact congrArg Logged.answer
  · intro same
    rw [castFieldLogged, castFieldLogged, same]

/-- **A function that gives back what it gets.** Such a function makes a difference to the value of
a field, and to what the log is told of it, exactly if the type is not known and the source gives
an instant. Then the value is the instant itself, and the seconds of it without the function. To an
integer type an instant is cast as it is without being taken as its seconds first. -/
theorem castFieldLogged_giving_back (returns : ∀ value, callback.run value = value)
    (record : Record) (field : String) (type : FieldType) (source : ValueSource) :
    (castFieldLogged record field type (.custom callback) source =
        castFieldLogged record field type .identity source ↔
      ¬(type = .auto ∧ ∃ instant, source.value record = .instant instant)) ∧
    (∀ instant, type = .auto → source.value record = .instant instant →
      castFieldValue record type (.custom callback) source = .instant instant ∧
      castFieldValue record type .identity source = .int instant.toInt64 ∧
      instant.toInt64.toInt = instant.seconds) ∧
    (type = .int32 ∨ type = .int64 →
      castFieldValue record type .identity source = type.cast (source.value record)) := by
  have exceptional (instant : Instant) (given : source.value record = .instant instant) :
      castFieldValue record .auto (.custom callback) source = .instant instant ∧
      castFieldValue record .auto .identity source = .int instant.toInt64 := by
    rw [castFieldValue_giving_back returns, castFieldValue, given]
    exact ⟨rfl, rfl⟩
  refine ⟨?_, ?_, ?_⟩
  · rw [castFieldLogged_eq_iff]
    constructor
    · rintro same ⟨rfl, instant, given⟩
      obtain ⟨kept, counted⟩ := exceptional instant given
      rw [kept, counted] at same
      cases same
    · intro usual
      rw [castFieldValue_giving_back returns, castFieldValue]
      by_cases known : type = .auto
      · rw [ValueTransform.apply_identity_of_ne fun instant given =>
          usual ⟨known, instant, given⟩]
      · exact (FieldType.cast_apply_identity known _).symm
  · rintro instant rfl given
    obtain ⟨kept, counted⟩ := exceptional instant given
    exact ⟨kept, counted, instant.toInt_toInt64⟩
  · intro integer
    have known : type ≠ .auto := by
      rintro rfl
      rcases integer with same | same <;> cases same
    exact FieldType.cast_apply_identity known _

/-- Half a second past noon on the first of May 2024. -/
def pastNoon : Instant :=
  ⟨1714564800, 500000000, by decide, by decide, by decide⟩

/-- A transform that gives its value back keeps an instant in a field of the type `auto`, where its
seconds would be taken otherwise, and makes no difference to an integer. -/
theorem castFieldLogged_giving_back_pastNoon :
    let record := (⟨"id", [("at", .instant pastNoon)]⟩ : AttributeRecord).toRecord
    let transform := ValueTransform.custom ⟨0, id⟩
    castFieldValue record .auto transform (.read "at") = .instant pastNoon ∧
    castFieldValue record .auto .identity (.read "at") = .int 1714564800 ∧
    castFieldLogged record "noon" .int32 transform (.read "at") =
      castFieldLogged record "noon" .int32 .identity (.read "at") ∧
    castFieldValue record .int32 .identity (.read "at") = .int 1714564800 := by
  intro record transform
  have returns : ∀ value, (⟨0, id⟩ : Callback Value Value).run value = value := fun _ => rfl
  obtain ⟨-, unknown, -⟩ := castFieldLogged_giving_back returns record "noon" .auto (.read "at")
  obtain ⟨usual, -, cast⟩ := castFieldLogged_giving_back returns record "noon" .int32 (.read "at")
  obtain ⟨kept, counted, -⟩ := unknown pastNoon rfl rfl
  exact ⟨kept, counted, usual.mpr (by rintro ⟨same, -⟩; cases same), cast (.inl rfl)⟩

end SearchCollection
