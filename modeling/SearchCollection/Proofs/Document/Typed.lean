import SearchCollection.Proofs.Cast.Forms
import SearchCollection.Proofs.Document.Contents

/-! # Documents are typed

Under the name of a field a document holds what the field's type asks for,
whatever the record has there and whatever the functions of the schema return
(`Schema.document_typed`). Of several fields of one name the last one counts.
-/

namespace SearchCollection

namespace Field

/-- What a field gives to a document is of its type, whatever the record. -/
theorem fits_toJson_castValue (field : Field) (record : Record) :
    field.type.form.fits (field.castValue record).toJson :=
  field.type.fits_toJson_cast _

end Field

namespace Schema

/-- **Documents are typed.** Under the name of every field stands a tree that fits the type of the
last field of the name: it is of the shape that the type asks for or, for a list type, a list of
such items, and then neither null nor a bare item. -/
theorem document_typed (schema : Schema) (record : Record) (field : Field)
    (member : field ∈ schema.fields) :
    ∃ last json,
      (schema.fields.filter fun other => other.outputName = field.outputName).getLast? =
        some last ∧
      (schema.document record).get? field.outputName = some json ∧
      last.type.form.fits json ∧
      ∀ shape, last.type.form = .list shape →
        ∃ items, json = .array items ∧ ∀ item ∈ items, shape.fits item := by
  have named : ∃ other ∈ schema.fields, other.outputName = field.outputName :=
    ⟨field, member, rfl⟩
  obtain ⟨last, found⟩ := exists_getLast?_filter named
  have fitting := last.fits_toJson_castValue record
  refine ⟨last, (last.castValue record).toJson, found, ?_, fitting, ?_⟩
  · rw [get?_document, found, Option.map_some, Option.some_or]
  · intro shape list
    rw [list] at fitting
    exact Form.exists_array_of_fits fitting

/-- The peak of a gauge, an integer under the name of the levels. -/
def peakField : Field :=
  ⟨"peak", .int32, { Modifiers.default "peak" with name := some "levels" }, []⟩

/-- A gauge whose levels, a list, stand behind the peak. -/
def gauge : Schema where
  record := "Gauge"
  normalized := []
  fields := [peakField, ⟨"levels", .floatArray, .default "levels", []⟩]
  settings := []

/-- A record with one level beyond all bounds and another missing. -/
def overflown : Record where
  read _ := .array [.float (.ofParts false Binary64.infinityBits), .null, .text "3.5"]
  primaryKeyValue := .null
  attributes := []

/-- Behind a peak of the same name, the levels of a gauge stay a list of doubles, beyond all bounds
or missing. -/
theorem document_typed_gauge : peakField ∈ gauge.fields ∧
    ∃ items, (gauge.document overflown).get? "levels" = some (.array items) ∧
      ∀ item ∈ items, Shape.float.fits item := by
  have member : peakField ∈ gauge.fields := List.mem_cons_self
  refine ⟨member, ?_⟩
  obtain ⟨last, json, found, stands, -, list⟩ := document_typed gauge overflown peakField member
  cases found
  obtain ⟨items, rfl, fitting⟩ := list .float rfl
  exact ⟨items, stands, fitting⟩

end Schema

end SearchCollection
