import SearchCollection.CommandLine.Arguments
import SearchCollection.CommandLine.Command

/-! # The program

`Program.run` reads the arguments and the configuration, opens the log, runs the
command and says what is printed. Results go to the standard output and failures
to the error output; arguments that make no sense end the program with 2 and
failures with 1. The log is handed back for the caller to write.
-/

namespace SearchCollection.CommandLine

/-- What the program finds around it. -/
structure Surroundings where
  arguments : List String
  home : Path
  /-- The configuration file that the environment names. -/
  configuration : Option Path := none
  /-- The format of the log that the environment asks for. -/
  logFormat : Option String := none

/-- What the program leaves behind. -/
structure Ending where
  exitCode : Nat := 0
  output : String := ""
  errors : String := ""

/-- What is written to the log, and where. -/
structure LogOutput where
  /-- The file, or none for the error output. -/
  file : Option Path
  format : String
  level : String
  events : List Event

/-- An ending with the log that comes with it. -/
structure Run where
  ending : Ending
  log : Option LogOutput := none

/-- The name and version of the program. -/
def versionText : String := "searchschema 0.3.1\n"

/-- How the program is called. -/
def usageText : String :=
  "Usage: searchschema [OPTIONS] <compile|query-by|document|lint> [PATH]\n"

namespace Ending

/-- The arguments ask for no command. -/
def ofStop : Stop → Ending
  | .help => { output := usageText }
  | .version => { output := versionText }
  | .misuse => { exitCode := 2, errors := usageText }

def ofFailure (failure : Failure) : Ending :=
  { exitCode := 1, errors := failure.report }

/-- A tree on lines of its own. -/
def ofJson (pretty : Bool) (json : Json) : Ending :=
  { output := (if pretty then json.pretty else json.compact) ++ "\n" }

/-- One line for each collection with its query fields. -/
def ofQueryLists (lists : List (String × String)) : Ending :=
  { output := .join (lists.map fun entry => entry.1 ++ "\t" ++ entry.2 ++ "\n") }

/-- One line for each problem; any problem is a failure. -/
def ofProblems : List (String × List String) → Ending
  | [] => { output := "All declarations are valid\n" }
  | found =>
      { ofFailure (.problemsFound found.length) with
        output := .join (found.flatMap fun entry =>
          entry.2.map fun problem => entry.1 ++ ": " ++ problem ++ "\n") }

/-- The ending that a command comes to. -/
def ofFinding {α : Type} (write : α → Ending) (finding : Finding α) : Logged Ending :=
  ⟨match finding.answer with
    | .ok value => write value
    | .error failure => ofFailure failure, finding.events⟩

end Ending

section

variable {m : Type → Type} [Monad m] [FileHost m]

/-- Runs a command. -/
def Command.run (configuration : Configuration) : Command → m (Logged Ending)
  | .compile path collection pretty => do
      return Ending.ofFinding (.ofJson pretty) (← CommandLine.compile configuration path collection)
  | .queryBy path collection => do
      return Ending.ofFinding .ofQueryLists (← CommandLine.queryBy configuration path collection)
  | .document path collection records pretty => do
      return Ending.ofFinding (.ofJson pretty)
        (← CommandLine.document configuration path collection records)
  | .lint path => do
      return Ending.ofFinding .ofProblems (← CommandLine.lint configuration path)

/-- The configuration that the program works with: from the file that is named, which is made if
it is missing, or else from the data folder. -/
def configure (home : Path) : Option Path → m (Except ConfigurationFault Configuration)
  | some path => do return (← Configuration.loadOrCreate home path).answer
  | none => Configuration.load home

/-- Opens the log file of the configuration, if it has one. -/
def openLog (configuration : Configuration) : m (Except Failure Unit) := do
  match configuration.logFile with
  | none => return .ok ()
  | some file => return (← FileHost.append file "").mapError (.logNotOpened file)

/-- Runs the program. -/
def run (surroundings : Surroundings) : m Run := do
  match Invocation.read surroundings.arguments surroundings.configuration with
  | .error stop => return { ending := .ofStop stop }
  | .ok invocation =>
      match ← configure surroundings.home invocation.configuration with
      | .error fault => return { ending := .ofFailure (.notConfigured fault) }
      | .ok configuration =>
          match ← openLog configuration with
          | .error failure => return { ending := .ofFailure failure }
          | .ok () =>
              let ended ← invocation.command.run configuration
              return {
                ending := ended.answer
                log := some {
                  file := configuration.logFile
                  format := invocation.logFormat.getD
                    (configuration.effectiveLogFormat surroundings.logFormat)
                  level := configuration.logLevel
                  events := ended.events } }

end

end SearchCollection.CommandLine
