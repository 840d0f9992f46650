import SearchCollection.Vocabulary
import SearchCollection.Options.Basic
import SearchCollection.Json.Basic

/-! # Fields

A field of a collection after its option has been resolved: its type, where its
value comes from and what is done to it, and its parameters in the order of the
declaration. The search engine is told of a field by its `Descriptor`, in which
the parameters that concern only this library are left out.
-/

namespace SearchCollection

/-- Where the value of a field comes from. -/
inductive ValueSource where
  /-- The attribute of this name. -/
  | read (name : String)
  | constant (value : Value)
  | computed (callback : Callback Record Value)

/-- What is done to the value of a field before it is cast. -/
inductive ValueTransform where
  | identity
  | custom (callback : Callback Value Value)

namespace ValueTransform

def isIdentity : ValueTransform → Bool
  | .identity => true
  | .custom _ => false

end ValueTransform

/-- What the modifiers of a field say. -/
structure Modifiers where
  name : Option String
  locale : Option String
  tokenSeparators : Option (List String)
  symbolsToIndex : Option (List String)
  transform : ValueTransform
  source : ValueSource

namespace Modifiers

/-- Without any modifier the value is the attribute of the declared name, as it is. -/
def default (field : String) : Modifiers where
  name := none
  locale := none
  tokenSeparators := none
  symbolsToIndex := none
  transform := .identity
  source := .read field

end Modifiers

/-- A resolved field. -/
structure Field where
  declaredName : String
  type : FieldType
  modifiers : Modifiers
  /-- The parameters in the order of the declaration. -/
  parameters : List (Parameter × Bool)

namespace Field

/-- The name of the field in the collection and in documents. -/
def outputName (field : Field) : String :=
  field.modifiers.name.getD field.declaredName

/-- The value of a parameter, if it is declared. -/
def parameter? (field : Field) (parameter : Parameter) : Option Bool :=
  (field.parameters.find? fun entry => entry.1 = parameter).map Prod.snd

/-- Whether the field stands in the default list of query fields. -/
def isSearchable (field : Field) : Bool :=
  (field.parameter? .searchable).getD false

/-- What the search engine is told of a field. -/
structure Descriptor where
  name : String
  type : FieldType
  locale : Option String
  tokenSeparators : Option (List String)
  symbolsToIndex : Option (List String)
  parameters : List (Parameter × Bool)

def descriptor (field : Field) : Descriptor where
  name := field.outputName
  type := field.type
  locale := field.modifiers.locale
  tokenSeparators := field.modifiers.tokenSeparators
  symbolsToIndex := field.modifiers.symbolsToIndex
  parameters := field.parameters.filter fun entry => entry.1.isEmitted

/-- The members of the descriptor as the search engine gets them, in order. -/
def Descriptor.members (descriptor : Descriptor) : List (String × Json) :=
  [("name", .string descriptor.name), ("type", .string descriptor.type.name)] ++
    (descriptor.locale.map fun locale => ("locale", .string locale)).toList ++
    (descriptor.tokenSeparators.map fun texts => ("token_separators", .ofStrings texts)).toList ++
    (descriptor.symbolsToIndex.map fun texts => ("symbols_to_index", .ofStrings texts)).toList ++
    descriptor.parameters.map fun entry => (entry.1.name, .bool entry.2)

/-- The descriptor as JSON, its members in order. -/
def Descriptor.toJson (descriptor : Descriptor) : Json :=
  .object descriptor.members

end Field

end SearchCollection
