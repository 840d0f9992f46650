import SearchCollection.Configuration.Text
import SearchCollection.Files.Host
import SearchCollection.Event

/-! # Configuration files

A configuration is read from its file, or is the default where there is no such
file. The file that a caller names is made with the default if it is missing;
that it could not be made is only told to the log.
-/

namespace SearchCollection

/-- Why there is no configuration. -/
inductive ConfigurationFault where
  | file (cause : FileFault)
  /-- The text of the file is not TOML, or no configuration. -/
  | toml
deriving DecidableEq

namespace ConfigurationFault

def message : ConfigurationFault → String
  | .file cause => cause.message
  | .toml => "the text is no configuration"

end ConfigurationFault

namespace Configuration

variable {m : Type → Type} [Monad m] [FileHost m]

/-- The configuration of a file that is there. -/
def readFile (home path : Path) : m (Except ConfigurationFault Configuration) := do
  match ← FileHost.readText path with
  | .error fault => return .error (.file fault)
  | .ok text =>
      match read? home text with
      | some configuration => return .ok configuration
      | none => return .error .toml

/-- The configuration in a folder. -/
def loadFrom (home folder : Path) : m (Except ConfigurationFault Configuration) := do
  let path := folder.join "config.toml"
  match ← FileHost.kind? path with
  | none => return .ok (expandPaths home (default home))
  | some _ => readFile home path

/-- The configuration in the data folder. -/
def load (home : Path) : m (Except ConfigurationFault Configuration) :=
  loadFrom home (dataFolder home)

/-- Writes the configuration to a file, for which folders are made as needed. -/
def save (configuration : Configuration) (path : Path) : m (Except FileFault Unit) := do
  let made ← match path.parent? with
    | some folder => FileHost.makeFolders folder
    | none => pure (.ok ())
  match made with
  | .error fault => return .error fault
  | .ok () => FileHost.write path configuration.write

/-- The configuration of a file, which is made if it is missing. -/
def loadOrCreate (home path : Path) :
    m (Logged (Except ConfigurationFault Configuration)) := do
  match ← FileHost.kind? path with
  | some _ => return ⟨← readFile home path, []⟩
  | none =>
      let configuration := default home
      match ← configuration.save path with
      | .ok () => return ⟨.ok configuration, []⟩
      | .error fault => return ⟨.ok configuration, [.configNotSaved path fault]⟩

end Configuration

end SearchCollection
