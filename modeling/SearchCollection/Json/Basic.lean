import SearchCollection.Keyed
import SearchCollection.Number.Binary64

/-! # JSON trees

The tree of a JSON text. A number is either a whole number or a double, and the
two are told apart by how they were written. The members of an object are a
list; the objects of record values and of texts that were read have their
members in key order, the entries of a collection schema keep an order of their
own (`Json.sorted` gives the ordered form).
-/

namespace SearchCollection

/-- A number of a JSON text. -/
inductive JsonNumber where
  | integer (value : Int)
  | float (value : Binary64)
deriving DecidableEq, Inhabited

/-- A JSON tree. -/
inductive Json where
  | null
  | bool (value : Bool)
  | number (value : JsonNumber)
  | string (value : String)
  | array (items : List Json)
  | object (members : List (String × Json))
deriving Inhabited

namespace Json

/-- What a tree is called in messages. -/
inductive Kind where
  | null
  | boolean
  | number
  | string
  | array
  | object
deriving DecidableEq

def Kind.phrase : Kind → String
  | .null => "null"
  | .boolean => "a boolean"
  | .number => "a number"
  | .string => "a string"
  | .array => "an array"
  | .object => "an object"

def kind : Json → Kind
  | .null => .null
  | .bool _ => .boolean
  | .number _ => .number
  | .string _ => .string
  | .array _ => .array
  | .object _ => .object

def ofInt64 (n : Int64) : Json :=
  .number (.integer n.toInt)

def ofStrings (texts : List String) : Json :=
  .array (texts.map .string)

mutual

/-- The same tree with the members of every object in key order, the last of equal keys kept. -/
def sorted : Json → Json
  | .array items => .array (sortedItems items)
  | .object members => .object (sortedMembers members)
  | .null => .null
  | .bool value => .bool value
  | .number value => .number value
  | .string value => .string value

def sortedItems : List Json → List Json
  | [] => []
  | item :: rest => sorted item :: sortedItems rest

/-- Each member is inserted before those that follow it, so that a later one of equal key is
the one that stays. -/
def sortedMembers : List (String × Json) → Entries Json
  | [] => []
  | (key, value) :: rest =>
      let others := sortedMembers rest
      if (others.get? key).isSome then others else others.insert key (sorted value)

end

end Json

end SearchCollection
