import SearchCollection.Number.Binary64

/-! # Trees of settings files

The tree of a TOML document. The entries of a table are in the order in which
their keys first came; no key occurs twice in one table.
-/

namespace SearchCollection

/-- A TOML tree. -/
inductive Toml where
  | text (value : String)
  | integer (value : Int)
  | float (value : Binary64)
  | bool (value : Bool)
  /-- A date, a time of day or both, as it is written. -/
  | moment (text : String)
  | array (items : List Toml)
  | table (entries : List (String × Toml))
deriving Inhabited

end SearchCollection
