import SearchCollection.Number.Layout

/-! # Trees of declaration files

The tree of a YAML document after its scalars have been read: a plain scalar may
be null, a Boolean or a number, and all others are texts. The entries of a
mapping stay in the order of the file.
-/

namespace SearchCollection

/-- A number of a YAML document. -/
inductive YamlNumber where
  | integer (value : Int)
  | float (value : Binary64)
deriving DecidableEq

/-- A YAML tree. -/
inductive Yaml where
  | null
  | bool (value : Bool)
  | number (value : YamlNumber)
  | string (value : String)
  | sequence (items : List Yaml)
  | mapping (entries : List (Yaml × Yaml))
  | tagged (tag : String) (content : Yaml)
deriving Inhabited

namespace YamlNumber

/-- The text that a number stands for where a text is wanted. -/
def text : YamlNumber → String
  | .integer value => toString value
  | .float value => FloatLayout.declared.write value

/-- Equality of numbers; what is no number equals itself here. -/
def equals : YamlNumber → YamlNumber → Bool
  | .integer a, .integer b => a == b
  | .float a, .float b => a.isNaN && b.isNaN || a.equals b
  | _, _ => false

end YamlNumber

namespace Yaml

/-- What a tree is called in messages. -/
inductive Kind where
  | null
  | boolean
  | number
  | string
  | list
  | mapping
  | tagged
deriving DecidableEq

def Kind.phrase : Kind → String
  | .null => "null"
  | .boolean => "boolean"
  | .number => "number"
  | .string => "string"
  | .list => "list"
  | .mapping => "mapping"
  | .tagged => "tagged value"

def kind : Yaml → Kind
  | .null => .null
  | .bool _ => .boolean
  | .number _ => .number
  | .string _ => .string
  | .sequence _ => .list
  | .mapping _ => .mapping
  | .tagged _ _ => .tagged

/-- The text of a scalar that is not null. -/
def scalarText? : Yaml → Option String
  | .string value => some value
  | .number value => some value.text
  | .bool value => some (if value then "true" else "false")
  | _ => none

mutual

/-- Whether two trees are equal. Two mappings are equal when each entry of the one has an equal
entry in the other and they have equally many. -/
def equals : Yaml → Yaml → Bool
  | .null, .null => true
  | .bool a, .bool b => a == b
  | .number a, .number b => a.equals b
  | .string a, .string b => a == b
  | .sequence a, .sequence b => equalItems a b
  | .mapping a, .mapping b => a.length == b.length && entriesIn a b
  | .tagged tagA a, .tagged tagB b => tagA == tagB && equals a b
  | _, _ => false

def equalItems : List Yaml → List Yaml → Bool
  | [], [] => true
  | a :: restA, b :: restB => equals a b && equalItems restA restB
  | _, _ => false

/-- Whether each entry has an equal one among the others. -/
def entriesIn : List (Yaml × Yaml) → List (Yaml × Yaml) → Bool
  | [], _ => true
  | (key, value) :: rest, others =>
      (others.any fun entry => equals key entry.1 && equals value entry.2) && entriesIn rest others

end

end Yaml

end SearchCollection
