import SearchCollection.Field.Basic
import SearchCollection.SettingValue

/-! # Schemas

A schema is the resolved form of one declaration: its fields and its settings,
each in the order of the declaration, and the options they came from. The search
engine gets its `CollectionSchema`, one document with the descriptors of the
fields and the settings.
-/

namespace SearchCollection

/-- The resolved form of a declaration. -/
structure Schema where
  record : String
  /-- The options of all names in normal form, those that every record type has included. -/
  normalized : List (String × Normalized)
  fields : List Field
  settings : List (Setting × SettingValue)

/-- What the search engine is told of a collection. -/
structure CollectionSchema where
  fields : List Field.Descriptor
  settings : List (Setting × SettingValue)

namespace Schema

/-- The field of a declared name. -/
def field? (schema : Schema) (declaredName : String) : Option Field :=
  schema.fields.find? fun field => field.declaredName = declaredName

def collectionSchema (schema : Schema) : CollectionSchema where
  fields := schema.fields.map Field.descriptor
  settings := schema.settings

end Schema

namespace CollectionSchema

/-- The schema as JSON in the order in which it is declared. -/
def document (schema : CollectionSchema) : Json :=
  .object (("fields", .array (schema.fields.map Field.Descriptor.toJson)) ::
    schema.settings.map fun entry => (entry.1.name, entry.2.toJson))

/-- The schema as JSON with its members in key order. -/
def toJson (schema : CollectionSchema) : Json :=
  schema.document.sorted

end CollectionSchema

end SearchCollection
