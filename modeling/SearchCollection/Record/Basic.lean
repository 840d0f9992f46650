import SearchCollection.Value.Basic

/-! # Records

A record is known by what can be read from it: the value of an attribute by name,
the value of its primary key, and the list of all its attributes. An
`AttributeRecord` is the plain case, a list of attributes in key order of which
one is the primary key; what it does not have reads as null.
-/

namespace SearchCollection

/-- What can be read from one record. -/
structure Record where
  read : String → Value
  primaryKeyValue : Value
  attributes : List (String × Value)

/-- A record that holds its attributes. -/
structure AttributeRecord where
  primaryKey : String
  attributes : Entries Value

namespace AttributeRecord

/-- The attribute, or null where there is none of the name. -/
def get (record : AttributeRecord) (name : String) : Value :=
  (record.attributes.get? name).getD .null

/-- The record with one attribute set. -/
def set (record : AttributeRecord) (name : String) (value : Value) : AttributeRecord :=
  { record with attributes := record.attributes.insert name value }

def toRecord (record : AttributeRecord) : Record where
  read := record.get
  primaryKeyValue := record.get record.primaryKey
  attributes := record.attributes

end AttributeRecord

end SearchCollection
