import SearchCollection.Value.Basic
import SearchCollection.Json.Printer
import SearchCollection.Time.Rfc3339

/-! # Values and JSON

`Value.toJson` gives the tree of a value, `Value.ofJson` the value of a tree.
An instant becomes its text and a double that is not finite becomes null; those
are the only values that do not come back. A whole number beyond 64 signed bits
becomes the nearest double. `Value.serialize` writes a value without building a
tree first.
-/

namespace SearchCollection.Value

mutual

/-- The tree of a value. -/
def toJson : Value → Json
  | .null => .null
  | .bool value => .bool value
  | .int value => .number (.integer value.toInt)
  | .float value => if value.isFinite then .number (.float value) else .null
  | .text value => .string value
  | .array items => .array (itemsToJson items)
  | .object members => .object (membersToJson members)
  | .instant value => .string value.write

def itemsToJson : List Value → List Json
  | [] => []
  | item :: rest => toJson item :: itemsToJson rest

def membersToJson : List (String × Value) → List (String × Json)
  | [] => []
  | (key, value) :: rest => (key, toJson value) :: membersToJson rest

end

/-- The value of a number: a whole one that fits is an integer. -/
def ofNumber : JsonNumber → Value
  | .integer value =>
      if Int64.minValue.toInt ≤ value ∧ value ≤ Int64.maxValue.toInt then .int (.ofInt value)
      else .float (.ofInt value)
  | .float value => .float value

mutual

/-- The value of a tree. -/
def ofJson : Json → Value
  | .null => .null
  | .bool value => .bool value
  | .number value => ofNumber value
  | .string value => .text value
  | .array items => .array (itemsOfJson items)
  | .object members => .object (membersOfJson members)

def itemsOfJson : List Json → List Value
  | [] => []
  | item :: rest => ofJson item :: itemsOfJson rest

def membersOfJson : List (String × Json) → List (String × Value)
  | [] => []
  | (key, value) :: rest => (key, ofJson value) :: membersOfJson rest

end

mutual

/-- The JSON text of a value. -/
def serialize : Value → String
  | .null => "null"
  | .bool value => if value then "true" else "false"
  | .int value => toString value.toInt
  | .float value => Json.writeFloat value
  | .text value => Json.writeString value
  | .array items => Json.bracketed (serializeItems items)
  | .object members => Json.braced (serializeMembers members)
  | .instant value => Json.writeString value.write

def serializeItems : List Value → List String
  | [] => []
  | item :: rest => serialize item :: serializeItems rest

def serializeMembers : List (String × Value) → List (String × String)
  | [] => []
  | (key, value) :: rest => (key, serialize value) :: serializeMembers rest

end

theorem itemsToJson_eq_map (items : List Value) : itemsToJson items = items.map toJson := by
  induction items with
  | nil => rfl
  | cons item rest ih => simp [itemsToJson, ih]

end SearchCollection.Value
