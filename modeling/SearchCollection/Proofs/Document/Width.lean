import SearchCollection.Proofs.Cast.Width
import SearchCollection.Proofs.Document.Names
import SearchCollection.Proofs.Schema.Added

/-! # How large the integers of a document can be

Under a field of 32-bit integers a document has the whole numbers of the given values, each
moved to the nearest bound of 64 bits (`Schema.document_width`). They fit 32 bits exactly
when the given ones do; nothing else keeps them there (`Schema.tally_overflows`).
-/

namespace SearchCollection

namespace Field

/-- The value that is cast, before the seconds of an instant are taken for it. -/
def givenValue (field : Field) (record : Record) : Value :=
  match field.modifiers.transform with
  | .identity => field.modifiers.source.value record
  | .custom callback => callback.run (field.modifiers.source.value record)

/-- It makes no difference to an integer that the seconds of an instant are taken beforehand. -/
theorem castValue_eq_cast_givenValue {field : Field}
    (narrow : field.type = .int32 ∨ field.type = .int32Array) (record : Record) :
    field.castValue record = field.type.cast (field.givenValue record) := by
  unfold castValue castFieldValue givenValue
  cases field.modifiers.transform with
  | custom callback => rfl
  | identity =>
      dsimp only
      rcases narrow with type | type <;> rw [type] <;>
        cases field.modifiers.source.value record <;> rfl

/-- An integer field of 32 bits gives the whole numbers of its values, clamped to 64 bits. -/
theorem integers_castValue {field : Field}
    (narrow : field.type = .int32 ∨ field.type = .int32Array) (record : Record) :
    (field.castValue record).toJson.integers =
      ((field.type.form.items (field.givenValue record)).filterMap Value.whole?).map
        clampInt64 := by
  rw [castValue_eq_cast_givenValue narrow, FieldType.cast_eq_cast_form]
  apply Form.integers_cast
  rcases narrow with type | type
  · rw [type]
    exact .inl rfl
  · rw [type]
    exact .inr rfl

end Field

namespace Schema

/-- **The width of integers.** For a field of 32-bit integers whose name no later field has, a
document holds the whole numbers of the given values, one or a list, each moved to the nearest
bound of 64 bits. So they all fit 64 bits, and they all fit 32 bits exactly when the whole numbers of
the given values do. -/
theorem document_width (schema : Schema) (record : Record) (before : List Field) (field : Field)
    (after : List Field) (split : schema.fields = before ++ field :: after)
    (last : ∀ later ∈ after, later.outputName ≠ field.outputName)
    (narrow : field.type = .int32 ∨ field.type = .int32Array) :
    ∃ json, (schema.document record).get? field.outputName = some json ∧
      json.integers =
        ((field.type.form.items (field.givenValue record)).filterMap Value.whole?).map
          clampInt64 ∧
      (∀ n ∈ json.integers, -2 ^ 63 ≤ n ∧ n < 2 ^ 63) ∧
      ((∀ n ∈ json.integers, FitsInt32 n) ↔
        ∀ value ∈ field.type.form.items (field.givenValue record), ∀ n, value.whole? = some n →
          FitsInt32 n) := by
  have integers := field.integers_castValue narrow record
  refine ⟨_, get?_document_of_last split last record, integers, ?_, ?_⟩
  · intro n member
    rw [integers] at member
    obtain ⟨whole, -, rfl⟩ := List.mem_map.mp member
    exact clampInt64_bounds whole
  · rw [integers, List.forall_mem_map]
    simp only [fitsInt32_clampInt64_iff, List.mem_filterMap, forall_exists_index, and_imp]
    constructor
    · intro fit value member n whole
      exact fit n value member whole
    · intro fit n value member whole
      exact fit value member n whole

/-- Tallies count in integers of 32 bits. -/
def tally : RecordType where
  name := "Tally"
  declared := .ok (.ofList [("count", .tokens "int32"), ("parts", .tokens "int32[]")])
  softDelete := true

def tallyFields : List Field :=
  [⟨"count", .int32, .default "count", []⟩, ⟨"parts", .int32Array, .default "parts", []⟩,
    primaryKeyField "id", deletionField "deleted_at"]

/-- A tally whose parts are given in several ways. -/
def mixedTally : Record where
  read _ := .array [.float (.ofDecimal true 275 (-2)), .null, .text " 40 "]
  primaryKeyValue := .null
  attributes := []

/-- The parts of a tally that fit 32 bits stay as they are. -/
theorem document_width_tally : ∃ schema json, assemble tally = .ok schema ∧
    (schema.document mixedTally).get? "parts" = some json ∧ json.integers = [-2, 40] ∧
    ∀ n ∈ json.integers, FitsInt32 n := by
  have computed : (assemble tally).map Schema.fields = .ok tallyFields := rfl
  obtain ⟨schema, assembled, fields⟩ := exists_of_map_eq_ok computed
  obtain ⟨json, found, integers, -, narrow⟩ := document_width schema mixedTally
    (tallyFields.take 1) ⟨"parts", .int32Array, .default "parts", []⟩ (tallyFields.drop 2) fields
    (by decide) (.inr rfl)
  have wholes : json.integers = [-2, 40] := integers.trans (by decide +kernel)
  refine ⟨schema, json, assembled, found, wholes, ?_⟩
  rw [wholes]
  decide

/-- The first second beyond 32 bits. -/
def beyondInt32 : Instant :=
  (Instant.of? 2147483648 0).get rfl

/-- A tally that counts one too many and was deleted too late. -/
def overflownTally : Record where
  read name := if name = "count" then .int 2147483648
    else if name = "deleted_at" then .instant beyondInt32 else .null
  primaryKeyValue := .null
  attributes := []

/-- A count and a time of deletion beyond 32 bits reach the document as they are. -/
theorem tally_overflows : ∃ schema, assemble tally = .ok schema ∧
    schema.fields = tallyFields ∧
    (schema.document overflownTally).get? "count" = some (.number (.integer 2147483648)) ∧
    (schema.document overflownTally).get? "__soft_deleted" =
      some (.number (.integer 2147483648)) ∧
    ¬FitsInt32 2147483648 := by
  have computed : (assemble tally).map Schema.fields = .ok tallyFields := rfl
  have count : (assemble tally).map (fun schema =>
      (schema.document overflownTally).get? "count") =
        .ok (some (.number (.integer 2147483648))) := rfl
  have deletion : (assemble tally).map (fun schema =>
      (schema.document overflownTally).get? "__soft_deleted") =
        .ok (some (.number (.integer 2147483648))) := rfl
  obtain ⟨schema, assembled, fields⟩ := exists_of_map_eq_ok computed
  rw [assembled] at count deletion
  refine ⟨schema, assembled, fields, Except.ok.inj count, Except.ok.inj deletion, ?_⟩
  decide

end Schema

end SearchCollection
