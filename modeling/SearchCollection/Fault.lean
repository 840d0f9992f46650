import SearchCollection.Vocabulary
import SearchCollection.Yaml.Basic
import SearchCollection.Json.Printer
import SearchCollection.Files.Path
import SearchCollection.Files.Fault

/-! # Faults

Everything that can be wrong with a declaration, a record or a file. A
`DeclarationFault` is the fault of one record type's declaration and says which
field it concerns, always by the declared name; `Fault` adds the record type and
the faults that belong to none. `Fault.message` is the text shown to the author.
-/

namespace SearchCollection

/-- What a modifier or a setting takes. -/
inductive Admissible where
  | nonEmptyText
  | text
  | characters
  | boolean
deriving DecidableEq

def Admissible.phrase : Admissible → String
  | .nonEmptyText => "a non-empty string"
  | .text => "a string"
  | .characters => "a string or a list of characters"
  | .boolean => "a boolean"

/-- The kind of function that a modifier takes. -/
inductive CallbackRole where
  | valueTransforming
  | record
deriving DecidableEq

def CallbackRole.phrase : CallbackRole → String
  | .valueTransforming => "value transforming"
  | .record => "record"

/-- What stands where the fields of a declaration should. -/
inductive NotAMapping where
  /-- The whole declaration is of this kind. -/
  | tree (kind : Yaml.Kind)
  /-- One of its keys is of this kind. -/
  | key (kind : Yaml.Kind)
deriving DecidableEq

def NotAMapping.phrase : NotAMapping → String
  | .tree kind => kind.phrase
  | .key kind => "a " ++ kind.phrase ++ " key"

/-- Why a tree is no field option. -/
inductive OptionFault where
  /-- The whole option is of this kind. -/
  | option (kind : Yaml.Kind)
  /-- A key inside the option is of this kind. -/
  | key (kind : Yaml.Kind)
  /-- A value inside the option is of this kind. -/
  | value (kind : Yaml.Kind)
deriving DecidableEq

def OptionFault.phrase : OptionFault → String
  | .option kind => "expected a string, list or boolean, got " ++ kind.phrase
  | .key kind => "option keys must be scalars, got " ++ kind.phrase
  | .value kind => "unsupported option value: " ++ kind.phrase

/-- What can be wrong with a declaration. -/
inductive DeclarationFault where
  | notDefined
  | notAMapping (found : NotAMapping)
  | unsupportedOption (field : String) (reason : OptionFault)
  | notOneType (field : String) (found : Nat)
  | typeNotQueryable (field : String) (type : FieldType)
  | parameterNotBoolean (field : String) (parameter : Parameter) (value : String)
  | parameterRepeated (field : String) (parameter : Parameter)
  | modifierRepeated (field : String) (modifier : Modifier)
  | modifierNotCallback (field : String) (modifier : Modifier) (expected : CallbackRole)
  | modifierNotAdmissible (field : String) (modifier : Modifier) (expected : Admissible)
  | settingNotAdmissible (setting : Setting) (expected : Admissible) (value : String)
  | sortingNotOneField
  | sortingFieldNotDeclared (field : String)
  | sortingFieldNotSortable (field : String) (type : FieldType)
deriving DecidableEq

namespace DeclarationFault

/-- The declared name of the field that the fault concerns. -/
def field? : DeclarationFault → Option String
  | .unsupportedOption field _ => some field
  | .notOneType field _ => some field
  | .typeNotQueryable field _ => some field
  | .parameterNotBoolean field _ _ => some field
  | .parameterRepeated field _ => some field
  | .modifierRepeated field _ => some field
  | .modifierNotCallback field _ _ => some field
  | .modifierNotAdmissible field _ _ => some field
  | .sortingFieldNotDeclared field => some field
  | .sortingFieldNotSortable field _ => some field
  | .notDefined => none
  | .notAMapping _ => none
  | .settingNotAdmissible _ _ _ => none
  | .sortingNotOneField => none

/-- The text of the fault without the record type. -/
def message : DeclarationFault → String
  | .notDefined => "schema declaration must be defined and return a mapping of fields"
  | .notAMapping found =>
      s!"schema declaration must be a mapping of field names to options (got {found.phrase})"
  | .unsupportedOption field reason =>
      s!"`{field}` - unsupported option value: {reason.phrase}"
  | .notOneType field found => s!"`{field}` - must have exactly one field type (found {found})"
  | .typeNotQueryable field type =>
      s!"`{field}` - field type `{type.name}` cannot be used to query"
  | .parameterNotBoolean field parameter value =>
      s!"`{field}` - `{parameter.name}` must be a boolean (got `{value}`)\nExamples:\n" ++
        s!"\t- {parameter.name}\n\t- {parameter.name}:true\n\t- {parameter.name}:false"
  | .parameterRepeated field parameter =>
      s!"`{field}` - `{parameter.name}` is declared more than once"
  | .modifierRepeated field modifier =>
      s!"`{field}` - field modifier `{modifier.key}` must not be repeated"
  | .modifierNotCallback field modifier expected =>
      s!"`{field}` - `{modifier.key}` must be a {expected.phrase} callback"
  | .modifierNotAdmissible field modifier expected =>
      s!"`{field}` - `{modifier.key}` must be {expected.phrase}"
  | .settingNotAdmissible setting expected value =>
      s!"`{setting.name}` must be {expected.phrase} (got `{value}`)"
  | .sortingNotOneField => "only one field can be used for default sorting"
  | .sortingFieldNotDeclared field =>
      s!"`{field}` - default sorting field must be defined in the schema"
  | .sortingFieldNotSortable field type =>
      s!"`{field}` - default sorting field must be int32 or float (got `{type.name}`)"

end DeclarationFault

/-- What can be wrong with a record. -/
inductive RecordFault where
  | notAnObject (kind : Json.Kind)
  /-- The tree under the name stands for no point in time. -/
  | notAnInstant (name : String) (found : Json)

def RecordFault.message : RecordFault → String
  | .notAnObject kind => s!"record must be a JSON object, got {kind.phrase}"
  | .notAnInstant name found =>
      s!"attribute `{name}` must be an RFC 3339 timestamp or unix seconds, got {found.compact}"

/-- What can be wrong. -/
inductive Fault where
  | declaration (record : String) (cause : DeclarationFault)
  | file (cause : FileFault)
  /-- A declaration file is not YAML, or not a declaration. -/
  | yaml
  | missingFolder (folder : Path)
  | record (cause : RecordFault)

namespace Fault

/-- The record type whose declaration is at fault. -/
def record? : Fault → Option String
  | .declaration owner _ => some owner
  | _ => none

/-- The declared name of the field at fault. -/
def field? : Fault → Option String
  | .declaration _ cause => cause.field?
  | _ => none

/-- Whether the declaration itself is at fault. -/
def isDeclaration (fault : Fault) : Bool :=
  fault.record?.isSome

def message : Fault → String
  | .declaration owner cause => owner ++ ": " ++ cause.message
  | .file cause => "IO error: " ++ cause.message
  | .yaml => "YAML error: the text is no declaration"
  | .missingFolder folder => "Config error: Schemas directory does not exist: " ++ folder
  | .record cause => "Invalid record: " ++ cause.message

end Fault

end SearchCollection
