/-! # The words of field options

Four closed vocabularies name what a declaration may say: the types of fields,
the Boolean parameters and the modifiers of a field, and the settings of a whole
collection. Each has its list of all words in a fixed order, the name of a word
and the word of a name; a name that no word has names nothing. The two separator
modifiers share their names with two settings.
-/

namespace SearchCollection

/-- The types of the fields of a collection. -/
inductive FieldType where
  /-- The search engine infers the type from the documents. -/
  | auto
  | string
  | stringArray
  /-- Values become a text or a list of texts. -/
  | stringAuto
  | int32
  | int32Array
  | int64
  | int64Array
  | float
  | floatArray
  | bool
  | boolArray
  /-- A latitude and a longitude. -/
  | geopoint
  | geopointArray
  /-- Latitudes and longitudes in turn. -/
  | geopolygon
  | object
  | objectArray
  /-- An encoded picture for the search by pictures. -/
  | image
deriving DecidableEq, Inhabited

namespace FieldType

def all : List FieldType :=
  [.auto, .string, .stringArray, .stringAuto, .int32, .int32Array, .int64, .int64Array, .float,
   .floatArray, .bool, .boolArray, .geopoint, .geopointArray, .geopolygon, .object, .objectArray,
   .image]

def name : FieldType → String
  | .auto => "auto"
  | .string => "string"
  | .stringArray => "string[]"
  | .stringAuto => "string*"
  | .int32 => "int32"
  | .int32Array => "int32[]"
  | .int64 => "int64"
  | .int64Array => "int64[]"
  | .float => "float"
  | .floatArray => "float[]"
  | .bool => "bool"
  | .boolArray => "bool[]"
  | .geopoint => "geopoint"
  | .geopointArray => "geopoint[]"
  | .geopolygon => "geopolygon"
  | .object => "object"
  | .objectArray => "object[]"
  | .image => "image"

/-- The type of a name. -/
def ofName? (name : String) : Option FieldType :=
  all.find? fun type => type.name = name

/-- Whether fields of the type may stand in the default list of query fields. -/
def isQueryable : FieldType → Bool
  | .string | .stringArray | .stringAuto | .object | .objectArray => true
  | _ => false

/-- Whether documents may be sorted by fields of the type when a query gives no order. -/
def isSortable : FieldType → Bool
  | .int32 | .float => true
  | _ => false

theorem ofName?_name (type : FieldType) : ofName? type.name = some type := by
  cases type <;> decide

/-- A name names the type that has it and no other. -/
theorem ofName?_eq_some_iff {text : String} {type : FieldType} :
    ofName? text = some type ↔ type.name = text := by
  constructor
  · intro found
    simpa using List.find?_some found
  · rintro rfl
    exact ofName?_name type

/-- Different types have different names. -/
theorem name_injective : Function.Injective name := by
  intro first second same
  have found := ofName?_name first
  rw [same, ofName?_name] at found
  exact (Option.some.inj found).symm

end FieldType

/-- The Boolean switches of a field. -/
inductive Parameter where
  /-- The field stands in the default list of query fields. -/
  | searchable
  | excluded
  | optional
  | store
  | sort
  | facet
  | index
  | infixSearch
  | stem
deriving DecidableEq, Inhabited

namespace Parameter

def all : List Parameter :=
  [.searchable, .excluded, .optional, .store, .sort, .facet, .index, .infixSearch, .stem]

def name : Parameter → String
  | .searchable => "searchable"
  | .excluded => "excluded"
  | .optional => "optional"
  | .store => "store"
  | .sort => "sort"
  | .facet => "facet"
  | .index => "index"
  | .infixSearch => "infix"
  | .stem => "stem"

def ofName? (name : String) : Option Parameter :=
  all.find? fun parameter => parameter.name = name

/-- Whether the search engine is told of the parameter. Which fields are searched by default is
no part of the schema that it gets. -/
def isEmitted : Parameter → Bool
  | .searchable => false
  | _ => true

theorem ofName?_name (parameter : Parameter) : ofName? parameter.name = some parameter := by
  cases parameter <;> decide

/-- No other text than its name finds a parameter. -/
theorem ofName?_eq_some_iff {text : String} {parameter : Parameter} :
    ofName? text = some parameter ↔ parameter.name = text := by
  constructor
  · intro found
    simpa using List.find?_some found
  · rintro rfl
    exact ofName?_name parameter

/-- Different parameters have different names. -/
theorem name_injective : Function.Injective name := by
  intro first second same
  have found := ofName?_name first
  rw [same, ofName?_name] at found
  exact (Option.some.inj found).symm

end Parameter

/-- What a declaration may say of a field besides its type and its switches. -/
inductive Modifier where
  /-- The name of the field in the collection, where it is not the declared one. -/
  | name
  | locale
  | tokenSeparators
  | symbolsToIndex
  /-- A function applied to the value before it is cast. -/
  | transformTo
  /-- A function of the record, or a constant, in place of the attribute of the field's name. -/
  | valueFrom
deriving DecidableEq, Inhabited

namespace Modifier

def all : List Modifier :=
  [.name, .locale, .tokenSeparators, .symbolsToIndex, .transformTo, .valueFrom]

def key : Modifier → String
  | .name => "name"
  | .locale => "locale"
  | .tokenSeparators => "token_separators"
  | .symbolsToIndex => "symbols_to_index"
  | .transformTo => "transformTo"
  | .valueFrom => "valueFrom"

def ofKey? (key : String) : Option Modifier :=
  all.find? fun modifier => modifier.key = key

theorem ofKey?_key (modifier : Modifier) : ofKey? modifier.key = some modifier := by
  cases modifier <;> decide

/-- No other text than its key finds a modifier. -/
theorem ofKey?_eq_some_iff {text : String} {modifier : Modifier} :
    ofKey? text = some modifier ↔ modifier.key = text := by
  constructor
  · intro found
    simpa using List.find?_some found
  · rintro rfl
    exact ofKey?_key modifier

/-- Different modifiers have different keys. -/
theorem key_injective : Function.Injective key := by
  intro first second same
  have found := ofKey?_key first
  rw [same, ofKey?_key] at found
  exact (Option.some.inj found).symm

end Modifier

/-- The settings of a whole collection, declared beside its fields. -/
inductive Setting where
  | tokenSeparators
  | symbolsToIndex
  | defaultSortingField
  | enableNestedFields
deriving DecidableEq, Inhabited

namespace Setting

def all : List Setting :=
  [.tokenSeparators, .symbolsToIndex, .defaultSortingField, .enableNestedFields]

def name : Setting → String
  | .tokenSeparators => "token_separators"
  | .symbolsToIndex => "symbols_to_index"
  | .defaultSortingField => "default_sorting_field"
  | .enableNestedFields => "enable_nested_fields"

def ofName? (name : String) : Option Setting :=
  all.find? fun setting => setting.name = name

theorem ofName?_name (setting : Setting) : ofName? setting.name = some setting := by
  cases setting <;> decide

/-- No other text than its name finds a setting. -/
theorem ofName?_eq_some_iff {text : String} {setting : Setting} :
    ofName? text = some setting ↔ setting.name = text := by
  constructor
  · intro found
    simpa using List.find?_some found
  · rintro rfl
    exact ofName?_name setting

/-- Different settings have different names. -/
theorem name_injective : Function.Injective name := by
  intro first second same
  have found := ofName?_name first
  rw [same, ofName?_name] at found
  exact (Option.some.inj found).symm

end Setting

end SearchCollection
