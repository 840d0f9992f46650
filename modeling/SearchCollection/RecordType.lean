import SearchCollection.Declaration
import SearchCollection.Fault

/-! # Record types

A kind of record: its name, under which the registry knows it and faults are
reported, its declaration or the fault that keeps it from having one, and its
conventions for the primary key and for records that are deleted only softly.
-/

namespace SearchCollection

/-- The name of the primary key where nothing else is said. -/
def defaultPrimaryKey : String := "id"

/-- The name of the attribute with the time of deletion where nothing else is said. -/
def defaultDeletedAt : String := "deleted_at"

/-- A kind of record. -/
structure RecordType where
  name : String
  declared : Except Fault Declaration := .error (.declaration name .notDefined)
  primaryKey : String := defaultPrimaryKey
  /-- Whether a deleted record stays, with the time of its deletion. -/
  softDelete : Bool := false
  deletedAt : String := defaultDeletedAt

end SearchCollection
