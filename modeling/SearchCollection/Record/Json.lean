import SearchCollection.Record.Basic
import SearchCollection.Value.Json
import SearchCollection.Fault

/-! # Records from JSON

A record is read from a JSON object. The attributes that are listed as points in
time are read from a text or from whole seconds and are the only ones that can
become instants; null stays null. The first attribute in key order that stands
for no point in time is a fault.
-/

namespace SearchCollection.AttributeRecord

/-- The point in time that a tree stands for. -/
def instant? : Json → Option Instant
  | .string text => Instant.read? text
  | .number (.integer seconds) => Instant.of? seconds 0
  | _ => none

/-- The value of an attribute that is listed as a point in time. -/
def readInstant (name : String) (json : Json) : Except RecordFault Value :=
  match json with
  | .null => .ok .null
  | _ =>
      match instant? json with
      | some instant => .ok (.instant instant)
      | none => .error (.notAnInstant name json)

/-- The value of an attribute. -/
def readAttribute (instants : List String) (name : String) (json : Json) :
    Except RecordFault Value :=
  if instants.contains name then readInstant name json else .ok (Value.ofJson json)

/-- The attributes of the members, in order, up to the first fault. -/
def readAttributes (instants : List String) :
    List (String × Json) → Except RecordFault (List (String × Value))
  | [] => .ok []
  | (name, json) :: rest => do
      let value ← readAttribute instants name json
      let attributes ← readAttributes instants rest
      return (name, value) :: attributes

/-- The record of a JSON object. -/
def ofJson (json : Json) (primaryKey : String) (instants : List String) :
    Except Fault AttributeRecord :=
  match json with
  | .object members =>
      match readAttributes instants members with
      | .ok attributes => .ok ⟨primaryKey, Entries.ofList attributes⟩
      | .error fault => .error (.record fault)
  | other => .error (.record (.notAnObject other.kind))

end SearchCollection.AttributeRecord
