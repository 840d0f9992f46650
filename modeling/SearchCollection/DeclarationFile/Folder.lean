import SearchCollection.DeclarationFile.Reader
import SearchCollection.Files.Host
import SearchCollection.Event
import SearchCollection.Keyed
import SearchCollection.Configuration.Basic

/-! # Folders of declaration files

The declarations of a folder are those of its files whose names end in `.yaml` or
`.yml`, read in the order of their names. They are known by their collections; of
two for one collection the later one counts, and the log is told. The first file
that is no declaration is a fault of the whole folder.
-/

namespace SearchCollection

/-- Record types from files by the names of their collections, in order. -/
abbrev FileRecordTypes := Entries FileRecordType

/-- Where declarations are loaded from, and how. -/
structure DeclarationFolder where
  path : Path
  conventions : Conventions := {}

namespace DeclarationFolder

/-- Whether a name is that of a declaration file. -/
def isDeclarationName (name : String) : Bool :=
  match Path.extension? name with
  | some ending => ending = "yaml" || ending = "yml"
  | none => false

/-- The paths of the declaration files among the names, in order. -/
def declarationPaths (folder : DeclarationFolder) (names : List String) : List Path :=
  ((names.filter isDeclarationName).mergeSort fun a b => a ≤ b).map folder.path.join

/-- The record types with one more, and what the log is told if it replaces another one. -/
def addType (types : FileRecordTypes) (type : FileRecordType) : Logged FileRecordTypes :=
  ⟨types.insert type.name type,
    match types.get? type.name with
    | some earlier => [.declarationReplaced earlier.name earlier.source]
    | none => []⟩

variable {m : Type → Type} [Monad m] [FileHost m]

/-- The record type of one file. -/
def loadFile (folder : DeclarationFolder) (path : Path) : m (Except Fault FileRecordType) := do
  match ← FileHost.readText path with
  | .error fault => return .error (.file fault)
  | .ok text =>
      return (DeclarationFile.read text).map fun file =>
        .ofFile file folder.conventions (some path)

/-- The record types of the files, added to those before, up to the first fault. -/
def loadFiles (folder : DeclarationFolder) (types : FileRecordTypes) :
    List Path → m (Logged (Except Fault FileRecordTypes))
  | [] => return ⟨.ok types, []⟩
  | path :: rest => do
      match ← folder.loadFile path with
      | .error fault => return ⟨.error fault, []⟩
      | .ok type =>
          let added := addType types type
          let later ← folder.loadFiles added.answer rest
          return ⟨later.answer, added.events ++ later.events⟩

/-- The record types of the folder. -/
def loadAll (folder : DeclarationFolder) : m (Logged (Except Fault FileRecordTypes)) := do
  if (← FileHost.kind? folder.path).isNone then return ⟨.error (.missingFolder folder.path), []⟩
  match ← FileHost.list folder.path with
  | .error fault => return ⟨.error (.file fault), []⟩
  | .ok names =>
      let loaded ← folder.loadFiles [] (folder.declarationPaths names)
      match loaded.answer with
      | .error _ => return loaded
      | .ok types =>
          return ⟨.ok types, loaded.events ++ [.declarationsLoaded types.length folder.path]⟩

/-- The record types of a path: of all files if it is a folder, or else of the file. -/
def loadPath (folder : DeclarationFolder) (path : Path) :
    m (Logged (Except Fault FileRecordTypes)) := do
  if (← FileHost.kind? path) = some .folder then
    DeclarationFolder.loadAll { folder with path := path }
  else
    match ← folder.loadFile path with
    | .error fault => return ⟨.error fault, []⟩
    | .ok type => return ⟨.ok [(type.name, type)], []⟩

end DeclarationFolder

namespace Configuration

/-- Where the configuration has declarations loaded from. -/
def declarationFolder (configuration : Configuration) : DeclarationFolder :=
  ⟨configuration.declarations, configuration.conventions⟩

end Configuration

end SearchCollection
