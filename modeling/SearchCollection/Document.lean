import SearchCollection.Cast
import SearchCollection.Schema.Basic
import SearchCollection.Event

/-! # Documents

The document of a record has the cast value of every field under the field's
name in the collection, and the attributes of the record that no field is
declared for under their own names. Fields come after attributes and later
fields after earlier ones; of several values for one name the last one stays.
-/

namespace SearchCollection

/-- The members of a document in key order. -/
abbrev Document := Entries Json

/-- The value that a field's source gives for a record. -/
def ValueSource.value (source : ValueSource) (record : Record) : Value :=
  match source with
  | .computed callback => callback.run record
  | .constant value => value
  | .read name => record.read name

/-- The value before it is cast. Without a function of its own, a field whose type is an integer
or not known takes an instant as its seconds. -/
def ValueTransform.apply (transform : ValueTransform) (type : FieldType) (raw : Value) : Value :=
  match transform with
  | .custom callback => callback.run raw
  | .identity =>
      match type, raw with
      | .int32, .instant value => .int value.toInt64
      | .int64, .instant value => .int value.toInt64
      | .auto, .instant value => .int value.toInt64
      | _, raw => raw

/-- The value of a field for a record. -/
def castFieldValue (record : Record) (type : FieldType) (transform : ValueTransform)
    (source : ValueSource) : Value :=
  type.cast (transform.apply type (source.value record))

/-- The value of a field for a record, and what the log is told of it. -/
def castFieldLogged (record : Record) (field : String) (type : FieldType)
    (transform : ValueTransform) (source : ValueSource) : Logged Value :=
  let value := castFieldValue record type transform source
  ⟨value, [.valueCast field type value]⟩

namespace Field

/-- The value of the field for a record. -/
def castValue (field : Field) (record : Record) : Value :=
  castFieldValue record field.type field.modifiers.transform field.modifiers.source

/-- What the log is told when the value of the field is cast. -/
def castEvent (field : Field) (record : Record) : Event :=
  .valueCast field.declaredName field.type (field.castValue record)

end Field

namespace Schema

/-- The attributes that no field is declared for. -/
def undeclared (schema : Schema) (record : Record) : List (String × Value) :=
  record.attributes.filter fun entry => (schema.field? entry.1).isNone

/-- The document of a record. -/
def document (schema : Schema) (record : Record) : Document :=
  Entries.ofList
    ((schema.undeclared record).map (fun entry => (entry.1, entry.2.toJson)) ++
      schema.fields.map fun field => (field.outputName, (field.castValue record).toJson))

/-- What the log is told while a document is built. -/
def documentEvents (schema : Schema) (record : Record) : List Event :=
  schema.fields.map fun field => field.castEvent record

end Schema

end SearchCollection
