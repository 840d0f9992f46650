import SearchCollection.Schema.Basic
import SearchCollection.Field.Resolution
import SearchCollection.RecordType

/-! # Assembling a schema

The schema of a record type comes from its declaration with up to two entries
added behind it: the primary key, and for soft deletion the time of deletion.
The entries with the name of a setting are settings and all others fields. The
fields are resolved first, and the settings read after them, so that a setting
may name a field that is declared behind it. The first fault decides.
-/

namespace SearchCollection

/-- The name of the time of deletion in a collection. -/
def softDeletedName : String := "__soft_deleted"

/-- The identities of the two functions that assembly itself puts into options. -/
inductive OwnCallback where
  | primaryKey
  | deletionTime

def OwnCallback.identity : OwnCallback → Nat
  | .primaryKey => 0
  | .deletionTime => 1

/-- The number of identities that are taken by assembly itself. -/
def OwnCallback.count : Nat := 2

/-- The primary key is a text and its value is the record's own. -/
def primaryKeyOption : FieldOption :=
  ((FieldOption.list []).token (.text "string")).valueFrom
    ⟨OwnCallback.primaryKey.identity, Record.primaryKeyValue⟩

/-- An instant as its seconds; all else as it is. -/
def deletionTime : Value → Value
  | .instant value => .int value.toInt64
  | other => other

/-- The time of deletion is an optional integer under a name of its own. -/
def softDeleteOption : FieldOption :=
  ((((FieldOption.list []).token (.text "int32")).set "name" (.text softDeletedName)).token
    (.text "optional")).transformTo ⟨OwnCallback.deletionTime.identity, deletionTime⟩

namespace Declaration

/-- The declaration with an option under a name that has none yet. -/
def addIfAbsent (declaration : Declaration) (name : String) (option : FieldOption) : Declaration :=
  if declaration.contains name then declaration else declaration.insert name option

end Declaration

namespace RecordType

/-- The declaration with the entries that every record type of its conventions has. -/
def complete (type : RecordType) (declaration : Declaration) : Declaration :=
  let keyed := declaration.addIfAbsent type.primaryKey primaryKeyOption
  if type.softDelete then keyed.addIfAbsent type.deletedAt softDeleteOption else keyed

/-- The names and normal forms of the completed declaration. -/
def normalized (type : RecordType) (declaration : Declaration) : List (String × Normalized) :=
  (type.complete declaration).entries.map fun entry => (entry.1, entry.2.normalize)

end RecordType

namespace Schema

/-- The entries that declare fields. -/
def fieldEntries (entries : List (String × Normalized)) : List (String × Normalized) :=
  entries.filter fun entry => (Setting.ofName? entry.1).isNone

/-- The entries that declare settings. -/
def settingEntries (entries : List (String × Normalized)) : List (Setting × Normalized) :=
  entries.filterMap fun entry => (Setting.ofName? entry.1).map fun setting => (setting, entry.2)

/-- The type of the field of a declared name. -/
def typeOf? (fields : List Field) (declaredName : String) : Option FieldType :=
  (fields.find? fun field => field.declaredName = declaredName).map Field.type

/-- The fields of the entries, resolved in order up to the first fault. -/
def resolveFields (record : String) : List (String × Normalized) → Except Fault (List Field)
  | [] => .ok []
  | (name, option) :: rest => do
      let field ← Field.resolve record name option
      let fields ← resolveFields record rest
      return field :: fields

/-- The settings of the entries, read in order up to the first fault. -/
def readSettings (record : String) (fields : List Field) :
    List (Setting × Normalized) → Except Fault (List (Setting × SettingValue))
  | [] => .ok []
  | (setting, option) :: rest => do
      let value ← setting.read record (typeOf? fields) option
      let settings ← readSettings record fields rest
      return (setting, value) :: settings

/-- The schema of entries whose fields have been resolved. -/
def ofFields (record : String) (entries : List (String × Normalized)) (fields : List Field) :
    Except Fault Schema := do
  let settings ← readSettings record fields (settingEntries entries)
  return ⟨record, entries, fields, settings⟩

/-- What the log is told of an assembled schema. -/
def assembledEvent (schema : Schema) : Event :=
  .schemaAssembled schema.record schema.fields.length schema.settings.length

end Schema

/-- The schema of a record type. -/
def assemble (type : RecordType) : Except Fault Schema := do
  let declaration ← type.declared
  let entries := type.normalized declaration
  let fields ← Schema.resolveFields type.name (Schema.fieldEntries entries)
  Schema.ofFields type.name entries fields

namespace Schema

/-- What the log is told while fields are resolved, up to the first fault. -/
def fieldEvents (record : String) : List (String × Normalized) → List Event
  | [] => []
  | (name, option) :: rest =>
      match Field.resolve record name option with
      | .ok field => Field.resolutionEvents record option field ++ fieldEvents record rest
      | .error _ => []

/-- What the log is told while a schema is assembled. -/
def assemblyEvents (type : RecordType) : List Event :=
  match type.declared with
  | .error _ => []
  | .ok declaration =>
      fieldEvents type.name (fieldEntries (type.normalized declaration)) ++
        match assemble type with
        | .ok schema => [schema.assembledEvent]
        | .error _ => []

end Schema

end SearchCollection
