import SearchCollection.Keyed
import SearchCollection.Number.Binary64
import SearchCollection.Time.Instant

/-! # Values

What the attributes of a record hold and what a document is made of. An instant
is a value of its own; a number is never taken for one. The members of an object
stand in key order. Two values are equal (`Value.equals`) when they are the same
but for their doubles, which are compared as numbers.
-/

namespace SearchCollection

/-- An attribute of a record, or a value cast for a document. -/
inductive Value where
  | null
  | bool (value : Bool)
  | int (value : Int64)
  | float (value : Binary64)
  | text (value : String)
  | array (items : List Value)
  | object (members : List (String × Value))
  | instant (value : Instant)
deriving Inhabited

namespace Value

def isNull : Value → Bool
  | .null => true
  | _ => false

def text? : Value → Option String
  | .text value => some value
  | _ => none

def int? : Value → Option Int64
  | .int value => some value
  | _ => none

/-- The seconds of an instant. -/
def seconds? : Value → Option Int64
  | .instant value => some value.toInt64
  | _ => none

/-- The value as a list: what is not an array already becomes the only item of one. Null stays
null. -/
def wrap : Value → Value
  | .null => .null
  | .array items => .array items
  | .bool value => .array [.bool value]
  | .int value => .array [.int value]
  | .float value => .array [.float value]
  | .text value => .array [.text value]
  | .object members => .array [.object members]
  | .instant value => .array [.instant value]

/-- The object with the given members; of two with one key the later one counts. -/
def ofMembers (members : List (String × Value)) : Value :=
  .object (Entries.ofList members)

mutual

/-- Whether two values are equal, doubles as numbers. -/
def equals : Value → Value → Bool
  | .null, .null => true
  | .bool a, .bool b => a == b
  | .int a, .int b => a == b
  | .float a, .float b => a.equals b
  | .text a, .text b => a == b
  | .array a, .array b => equalItems a b
  | .object a, .object b => equalMembers a b
  | .instant a, .instant b => a == b
  | _, _ => false

def equalItems : List Value → List Value → Bool
  | [], [] => true
  | a :: restA, b :: restB => equals a b && equalItems restA restB
  | _, _ => false

def equalMembers : List (String × Value) → List (String × Value) → Bool
  | [], [] => true
  | (keyA, a) :: restA, (keyB, b) :: restB => keyA == keyB && equals a b && equalMembers restA restB
  | _, _ => false

end

end Value

end SearchCollection
