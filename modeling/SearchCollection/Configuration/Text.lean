import SearchCollection.Configuration.Basic
import SearchCollection.Toml.Reader
import SearchCollection.Toml.Writer

/-! # Configurations as text

A configuration file has three sections, all of which may be missing, and so may
what is in them; what is unknown is passed over. A section may also be an array
that has its members in order; the section on logging must then be complete. A
date in the place of a section counts as one with nothing known in it.
-/

namespace SearchCollection.Configuration

/-- The member of a table. -/
def member? (entries : List (String × Toml)) (name : String) : Option Toml :=
  entries.lookup name

/-- The members of a section by their names; a section that is an array has at least `least` of
them. -/
def sectionMembers? (names : List String) (least : Nat) :
    Option Toml → Option (List (Option Toml))
  | none => some (names.map fun _ => none)
  | some (.table entries) => some (names.map (member? entries))
  | some (.array items) =>
      if items.length < least then none
      else some (names.zipIdx.map fun (_, index) => items[index]?)
  | some (.moment _) => some (names.map fun _ => none)
  | some _ => none

/-- The text of a member, or a default if it is missing; no other kind will do. -/
def textOr? (missing : String) : Option Toml → Option String
  | none => some missing
  | some (.text value) => some value
  | some _ => none

/-- The text of a member that may be missing. -/
def optionalText? : Option Toml → Option (Option String)
  | none => some none
  | some (.text value) => some (some value)
  | some _ => none

/-- The configuration that the entries of a document give; paths are as they are written. -/
def ofEntries? (home : Path) (entries : List (String × Toml)) : Option Configuration := do
  let standard := default home
  let logging ← sectionMembers? ["level", "file"] 2 (member? entries "logging")
  let logLevel ← textOr? standard.logLevel (logging[0]?).join
  let logFile ← optionalText? (logging[1]?).join
  let observability ← sectionMembers? ["log_format"] 0 (member? entries "observability")
  let logFormat ← textOr? standard.logFormat (observability[0]?).join
  let schemas ← sectionMembers? ["dir", "primary_key", "deleted_at"] 0 (member? entries "schemas")
  let declarations ← textOr? standard.declarations (schemas[0]?).join
  let primaryKey ← textOr? standard.conventions.primaryKey (schemas[1]?).join
  let deletedAt ← textOr? standard.conventions.deletedAt (schemas[2]?).join
  return {
    logLevel := logLevel
    logFile := logFile
    logFormat := logFormat
    declarations := declarations
    conventions := { primaryKey := primaryKey, deletedAt := deletedAt } }

/-- The configuration that a text holds. -/
def read? (home : Path) (text : String) : Option Configuration :=
  ((Toml.read? text).bind (ofEntries? home)).map (expandPaths home)

/-- A line that gives a text to a key. -/
def writeEntry (key value : String) : String :=
  key ++ " = " ++ Toml.writeText value ++ "\n"

/-- The text of a configuration file. -/
def write (configuration : Configuration) : String :=
  "[logging]\n" ++ writeEntry "level" configuration.logLevel ++
    (match configuration.logFile with
      | some file => writeEntry "file" file
      | none => "") ++
    "\n[observability]\n" ++ writeEntry "log_format" configuration.logFormat ++
    "\n[schemas]\n" ++ writeEntry "dir" configuration.declarations ++
    writeEntry "primary_key" configuration.conventions.primaryKey ++
    writeEntry "deleted_at" configuration.conventions.deletedAt

end SearchCollection.Configuration
