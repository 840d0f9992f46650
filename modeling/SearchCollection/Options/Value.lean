import SearchCollection.Record.Basic

/-! # Values of options

What stands behind the key of an option, or alone in a list of options: a text,
a Boolean, a list of such values, or one of two kinds of functions that only a
declaration written in a program can hold. A function is known by its identity:
two option values are the same when their functions are one and the same object
(`OptionValue.same`), whatever they compute.
-/

namespace SearchCollection

/-- A function with an identity of its own. -/
structure Callback (α β : Type) where
  identity : Nat
  run : α → β

/-- A value of a field option. -/
inductive OptionValue where
  | text (value : String)
  | bool (value : Bool)
  | list (items : List OptionValue)
  /-- Gives the value of a field from the whole record. -/
  | valueFrom (callback : Callback Record Value)
  /-- Changes the value of a field before it is cast. -/
  | transform (callback : Callback Value Value)

namespace OptionValue

instance : Inhabited OptionValue := ⟨.bool false⟩

def text? : OptionValue → Option String
  | .text value => some value
  | _ => none

def isCallback : OptionValue → Bool
  | .valueFrom _ | .transform _ => true
  | _ => false

/-- The word for a Boolean. -/
def boolText (value : Bool) : String :=
  if value then "true" else "false"

mutual

/-- The value as messages show it. -/
def describe : OptionValue → String
  | .text value => value
  | .bool value => boolText value
  | .list items => "[" ++ ", ".intercalate (describeItems items) ++ "]"
  | .valueFrom _ => "<valueFrom callback>"
  | .transform _ => "<transformTo callback>"

def describeItems : List OptionValue → List String
  | [] => []
  | item :: rest => describe item :: describeItems rest

end

mutual

/-- The constant that the value stands for where a field takes its value from an option. -/
def toValue : OptionValue → Value
  | .text value => .text value
  | .bool value => .bool value
  | .list items => .array (itemsToValue items)
  | .valueFrom _ | .transform _ => .null

def itemsToValue : List OptionValue → List Value
  | [] => []
  | item :: rest => toValue item :: itemsToValue rest

end

mutual

/-- Whether two option values are the same, functions by identity. -/
def same : OptionValue → OptionValue → Bool
  | .text a, .text b => a == b
  | .bool a, .bool b => a == b
  | .list a, .list b => sameItems a b
  | .valueFrom a, .valueFrom b => a.identity == b.identity
  | .transform a, .transform b => a.identity == b.identity
  | _, _ => false

def sameItems : List OptionValue → List OptionValue → Bool
  | [], [] => true
  | a :: restA, b :: restB => same a b && sameItems restA restB
  | _, _ => false

end

end OptionValue

end SearchCollection
