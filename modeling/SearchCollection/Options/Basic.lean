import SearchCollection.Options.Value
import SearchCollection.Text.Pieces

/-! # Field options

A field is declared by one text of tokens between bars, by a list of entries
with or without a key, or by one Boolean. `FieldOption.normalize` brings the
three to one form: an `OptionMap`, whose entries are keyed by their position or
by a name. A text with a colon is an entry of its own, named by what stands
before the first colon, wherever it occurs. Entries with equal keys are all
kept, so that they can be refused later.
-/

namespace SearchCollection

/-- An entry of an option that is a list. -/
inductive OptionEntry where
  | positional (value : OptionValue)
  | keyed (key : String) (value : OptionValue)

/-- A field option as it is declared. -/
inductive FieldOption where
  /-- Tokens with a bar between each two. -/
  | tokens (text : String)
  | list (entries : List OptionEntry)
  | flag (value : Bool)

/-- The key of an entry after normalization. -/
inductive OptionKey where
  /-- A token without a name, by its position in the declaration. -/
  | index (position : Nat)
  | name (text : String)
deriving DecidableEq

/-- The entries of one field in the order of the declaration. -/
abbrev OptionMap := List (OptionKey × OptionValue)

/-- A field option in normal form. -/
inductive Normalized where
  | flag (value : Bool)
  | options (map : OptionMap)

/-- The tokens of a text: the pieces between the bars. -/
def tokensOf (text : String) : List String :=
  (Text.split '|' text.toList).map String.ofList

namespace OptionEntry

/-- Whether two entries are the same, functions by identity. -/
def same : OptionEntry → OptionEntry → Bool
  | .positional a, .positional b => a.same b
  | .keyed keyA a, .keyed keyB b => keyA == keyB && a.same b
  | _, _ => false

end OptionEntry

namespace OptionKey

def name? : OptionKey → Option String
  | .name text => some text
  | .index _ => none

end OptionKey

namespace OptionMap

/-- The first value with the name. -/
def get? (map : OptionMap) (name : String) : Option OptionValue :=
  (map.find? fun entry => entry.1.name? = some name).map Prod.snd

/-- Whether the token stands in the option without a name. -/
def hasFlag (map : OptionMap) (token : String) : Bool :=
  map.any fun entry => entry.1.name?.isNone && entry.2.text? == some token

def values (map : OptionMap) : List OptionValue :=
  map.map Prod.snd

/-- The entry of a value under a key; a text with a colon takes its name from itself. -/
def entryOf (key : OptionKey) (value : OptionValue) : OptionKey × OptionValue :=
  match value with
  | .text token =>
      match Text.cut ':' token.toList with
      | some (name, rest) => (.name (.ofList name), .text (.ofList rest))
      | none => (key, value)
  | _ => (key, value)

end OptionMap

namespace FieldOption

instance : Inhabited FieldOption := ⟨.flag false⟩

/-- The option as a list of entries. -/
def entries : FieldOption → List OptionEntry
  | .list entries => entries
  | .tokens text => (tokensOf text).map fun token => .positional (.text token)
  | .flag value => [.positional (.bool value)]

/-- The option with one more entry at its end. -/
def push (option : FieldOption) (entry : OptionEntry) : FieldOption :=
  .list (option.entries ++ [entry])

/-- The option with one more value without a key. -/
def token (option : FieldOption) (value : OptionValue) : FieldOption :=
  option.push (.positional value)

/-- The option with one more value under a key. -/
def set (option : FieldOption) (key : String) (value : OptionValue) : FieldOption :=
  option.push (.keyed key value)

/-- The option that takes the value of the field from the record. -/
def valueFrom (option : FieldOption) (callback : Callback Record Value) : FieldOption :=
  option.set "valueFrom" (.valueFrom callback)

/-- The option that changes the value of the field. -/
def transformTo (option : FieldOption) (callback : Callback Value Value) : FieldOption :=
  option.set "transformTo" (.transform callback)

/-- Whether two options are the same, functions by identity. -/
def same : FieldOption → FieldOption → Bool
  | .tokens a, .tokens b => a == b
  | .flag a, .flag b => a == b
  | .list a, .list b => a.length == b.length && (a.zip b).all fun pair => pair.1.same pair.2
  | _, _ => false

/-- The entry of the option map that an entry of a list at a position becomes. -/
def normalizeEntry (position : Nat) : OptionEntry → OptionKey × OptionValue
  | .positional value => OptionMap.entryOf (.index position) value
  | .keyed key value => OptionMap.entryOf (.name key) value

/-- The option in normal form. -/
def normalize : FieldOption → Normalized
  | .flag value => .flag value
  | option => .options (option.entries.mapIdx normalizeEntry)

end FieldOption

namespace Normalized

/-- The entries of the option; a flag has none. -/
def entries : Normalized → OptionMap
  | .flag _ => []
  | .options map => map

/-- What the option of a setting gives: the values of its entries, or the flag itself. -/
def settingValues : Normalized → List OptionValue
  | .flag value => [.bool value]
  | .options map => map.values

end Normalized

end SearchCollection
