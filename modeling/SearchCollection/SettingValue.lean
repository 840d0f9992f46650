import SearchCollection.Options.Boolean
import SearchCollection.Options.Characters
import SearchCollection.Options.Basic
import SearchCollection.Json.Basic
import SearchCollection.Text.Blank
import SearchCollection.Suitability

/-! # Settings of a collection

A setting is read from the values of its option, whatever their keys. The two
lists of characters take all values together; the other two settings take one
value. The default sorting field is given by its declared name, as a text or as
a list of one text, and must be a field whose type can be sorted by.
-/

namespace SearchCollection

/-- What a setting is set to. -/
inductive SettingValue where
  | characters (texts : List String)
  | field (name : String)
  | switch (value : Bool)
deriving DecidableEq

namespace SettingValue

def toJson : SettingValue → Json
  | .characters texts => .ofStrings texts
  | .field name => .string name
  | .switch value => .bool value

end SettingValue

namespace Setting

/-- The values are not what the setting takes. -/
def refuse {α : Type} (setting : Setting) (expected : Admissible) (values : List OptionValue) :
    Except DeclarationFault α :=
  .error (.settingNotAdmissible setting expected (OptionValue.list values).describe)

/-- The text that names a sorting field before it is trimmed; anything in a list of one that is
no text counts as the empty text. -/
def sortingText? : List OptionValue → Option String
  | [.text name] => some name
  | [.list [item]] => some (item.text?.getD "")
  | _ => none

/-- The one sorting field that the values name. -/
def sortingField (values : List OptionValue) : Except DeclarationFault String :=
  match sortingText? values with
  | some text =>
      let name := Text.trim text
      if name = "" || name.toList.contains ',' then .error .sortingNotOneField else .ok name
  | none => .error .sortingNotOneField

/-- What the values of its option set a setting to. `typeOf?` knows the fields by their declared
names. -/
def readValues (setting : Setting) (typeOf? : String → Option FieldType)
    (values : List OptionValue) : Except DeclarationFault SettingValue :=
  match setting with
  | .tokenSeparators | .symbolsToIndex =>
      match (OptionValue.list values).characters? with
      | some texts => .ok (.characters texts)
      | none => setting.refuse .characters values
  | .defaultSortingField => do
      let name ← sortingField values
      match typeOf? name with
      | none => .error (.sortingFieldNotDeclared name)
      | some type =>
          type.checkSortable name
          return .field name
  | .enableNestedFields =>
      match values with
      | [value] =>
          match value.boolean? with
          | some switch => .ok (.switch switch)
          | none => setting.refuse .boolean values
      | _ => setting.refuse .boolean values

/-- What an option sets a setting of a record type to. -/
def read (setting : Setting) (record : String) (typeOf? : String → Option FieldType)
    (option : Normalized) : Except Fault SettingValue :=
  (setting.readValues typeOf? option.settingValues).mapError (.declaration record)

end Setting

end SearchCollection
