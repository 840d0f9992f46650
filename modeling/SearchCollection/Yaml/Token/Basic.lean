/-! # Tokens of YAML text

The marks, scalars and properties of a text in order. Where a block begins and
ends is a token too, although nothing is written there: it follows from the
indentation. So is the start of a key, which only the colon behind it reveals.
-/

namespace SearchCollection.Yaml

/-- The ways to write a scalar, as far as they change what it means. -/
inductive ScalarStyle where
  | plain
  | quoted
  | literal
  | folded
deriving DecidableEq

/-- A token of a YAML text. -/
inductive Token where
  | version (major minor : Nat)
  /-- From now on tags with this handle begin with this text. -/
  | tagHandle (handle : String) (replacement : String)
  | documentStart
  | documentEnd
  | blockSequence
  | blockMapping
  | blockEnd
  | openSequence
  | closeSequence
  | openMapping
  | closeMapping
  | comma
  /-- A dash that begins an item. -/
  | item
  | key
  | value
  | alias (name : String)
  | anchor (name : String)
  | tag (handle suffix : String)
  | scalar (style : ScalarStyle) (content : String)

end SearchCollection.Yaml
