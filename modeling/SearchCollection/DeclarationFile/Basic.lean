import SearchCollection.RecordType
import SearchCollection.Yaml.Basic

/-! # Declarations in files

A declaration file names a collection and gives the options of its fields as a
YAML tree. The tree is read only when the declaration is asked for: a file
without one still loads, and so does one whose tree is no declaration. In the
tree a number or a Boolean may stand where a text is wanted and counts as its
text; null, tags and mappings in the wrong place are faults, and the first one
in the order of the file decides.
-/

namespace SearchCollection

/-- What a declaration file says. -/
structure DeclarationFile where
  collection : String
  primaryKey : Option String := none
  softDelete : Bool := false
  deletedAt : Option String := none
  /-- The attributes that are points in time. -/
  instants : List String := []
  schema : Option Yaml := none

/-- The names that a file may leave out. -/
structure Conventions where
  primaryKey : String := defaultPrimaryKey
  deletedAt : String := defaultDeletedAt

/-- A record type that comes from a file. -/
structure FileRecordType where
  name : String
  primaryKey : String
  softDelete : Bool
  deletedAt : String
  instants : List String
  schema : Option Yaml
  /-- The file, if there is one. -/
  source : Option Path

namespace Yaml

mutual

/-- The option value of a tree. -/
def optionValue : Yaml → Except OptionFault OptionValue
  | .bool value => .ok (.bool value)
  | .string value => .ok (.text value)
  | .number value => .ok (.text value.text)
  | .sequence items => do return .list (← optionValues items)
  | .null => .error (.value .null)
  | .mapping _ => .error (.value .mapping)
  | .tagged _ _ => .error (.value .tagged)

/-- The option values of the items of a list, up to the first fault. -/
def optionValues : List Yaml → Except OptionFault (List OptionValue)
  | [] => .ok []
  | item :: rest => do
      let value ← optionValue item
      let values ← optionValues rest
      return value :: values

end

/-- The entries that a mapping gives to an option. -/
def keyedEntries : List (Yaml × Yaml) → Except OptionFault (List OptionEntry)
  | [] => .ok []
  | (key, tree) :: rest =>
      match key.scalarText? with
      | none => .error (.key key.kind)
      | some name => do
          let value ← optionValue tree
          let entries ← keyedEntries rest
          return .keyed name value :: entries

/-- The entries that an item of a list gives to an option: a mapping gives each of its own. -/
def itemEntries : Yaml → Except OptionFault (List OptionEntry)
  | .mapping entries => keyedEntries entries
  | item => do return [.positional (← optionValue item)]

/-- The entries that a list gives to an option. -/
def listEntries : List Yaml → Except OptionFault (List OptionEntry)
  | [] => .ok []
  | item :: rest => do
      let first ← itemEntries item
      let entries ← listEntries rest
      return first ++ entries

/-- The field option of a tree. -/
def fieldOption : Yaml → Except OptionFault FieldOption
  | .bool value => .ok (.flag value)
  | .string value => .ok (.tokens value)
  | .number value => .ok (.tokens value.text)
  | .sequence items => do return .list (← listEntries items)
  | .mapping entries => do return .list (← keyedEntries entries)
  | .null => .error (.option .null)
  | .tagged _ _ => .error (.option .tagged)

/-- The names and options of the entries of a mapping, up to the first fault. -/
def declarationEntries :
    List (Yaml × Yaml) → Except DeclarationFault (List (String × FieldOption))
  | [] => .ok []
  | (key, tree) :: rest =>
      match key.scalarText? with
      | none => .error (.notAMapping (.key key.kind))
      | some name =>
          match fieldOption tree with
          | .error reason => .error (.unsupportedOption name reason)
          | .ok option => do
              let entries ← declarationEntries rest
              return (name, option) :: entries

/-- The declaration that a file's tree holds. -/
def declaration : Option Yaml → Except DeclarationFault Declaration
  | none => .error .notDefined
  | some .null => .error .notDefined
  | some (.mapping entries) => do return .ofList (← declarationEntries entries)
  | some tree => .error (.notAMapping (.tree tree.kind))

end Yaml

namespace FileRecordType

/-- The record type of a file; what the file leaves out follows the conventions. -/
def ofFile (file : DeclarationFile) (conventions : Conventions) (source : Option Path) :
    FileRecordType where
  name := file.collection
  primaryKey := file.primaryKey.getD conventions.primaryKey
  softDelete := file.softDelete
  deletedAt := file.deletedAt.getD conventions.deletedAt
  instants := file.instants
  schema := file.schema
  source := source

def toRecordType (type : FileRecordType) : RecordType where
  name := type.name
  declared := (Yaml.declaration type.schema).mapError (.declaration type.name)
  primaryKey := type.primaryKey
  softDelete := type.softDelete
  deletedAt := type.deletedAt

end FileRecordType

end SearchCollection
