import SearchCollection.DeclarationFile.Basic

/-! # The configuration

How much is logged and where, where the declaration files are, and the
conventions for record types that do not say otherwise. Everything has a default;
the files are in the data folder under the home folder unless the configuration
names another folder. A path may begin with a tilde for the home folder.
-/

namespace SearchCollection

/-- The name of the folder under the home folder that holds the data. -/
def dataFolderName : String := ".searchschema"

/-- The folder that holds the data. -/
def dataFolder (home : Path) : Path :=
  home.join dataFolderName

/-- The path with the home folder in place of a tilde at its beginning. -/
def expandTilde (home path : Path) : Path :=
  match path.toList with
  | ['~'] => home
  | '~' :: '/' :: rest => home.join (.ofList rest)
  | _ => path

/-- What can be configured. -/
structure Configuration where
  logLevel : String := "info"
  /-- The file that the log is added to. -/
  logFile : Option Path := none
  logFormat : String := "pretty"
  declarations : Path
  conventions : Conventions := {}

namespace Configuration

/-- The configuration where nothing is configured. -/
def default (home : Path) : Configuration where
  declarations := (dataFolder home).join "schemas"

/-- The configuration with the home folder in its paths. -/
def expandPaths (home : Path) (configuration : Configuration) : Configuration :=
  { configuration with
    declarations := expandTilde home configuration.declarations
    logFile := configuration.logFile.map (expandTilde home) }

/-- The format of the log, where the environment may ask for another one. -/
def effectiveLogFormat (configuration : Configuration) (asked : Option String) : String :=
  asked.getD configuration.logFormat

end Configuration

end SearchCollection
