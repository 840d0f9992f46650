import SearchCollection.Schema.Basic

/-! # The default list of query fields

A search that names no fields looks at the searchable ones. They are listed by
their declared names; the first one whose type cannot be queried is a fault.
-/

namespace SearchCollection

namespace Schema

/-- The declared names of the searchable fields, up to the first that cannot be queried. -/
def queryNames (record : String) : List Field → Except Fault (List String)
  | [] => .ok []
  | field :: rest =>
      if field.isSearchable then do
        (field.type.checkQueryable field.declaredName).mapError (.declaration record)
        let names ← queryNames record rest
        return field.declaredName :: names
      else queryNames record rest

/-- The default list of query fields, with a comma between each two. -/
def queryBy (schema : Schema) : Except Fault String := do
  let names ← queryNames schema.record schema.fields
  return ",".intercalate names

end Schema

end SearchCollection
