import SearchCollection.CommandLine.Program

/-! # The command line

Runs the program with the files of the machine: takes the arguments and the
environment, prints what `CommandLine.run` says, and writes the log.
-/

namespace SearchCollection.CommandLine

/-- The reason why a file could not be used. -/
def faultOfError : IO.Error → FileFault
  | .noFileOrDirectory .. => .notFound
  | .alreadyExists .. => .exists
  | error => .other (toString error)

/-- The result of an action on files. -/
def attempt {α : Type} (action : IO α) : IO (Except FileFault α) := do
  try
    return .ok (← action)
  catch error =>
    return .error (faultOfError error)

/-- What stands at a path of the machine. -/
def machineKind? (path : Path) : IO (Option PathKind) := do
  match ← attempt (IO.FS.realPath path) with
  | .error _ => return none
  | .ok found => return some (if ← found.isDir then .folder else .file)

/-- The names in a folder of the machine. -/
def machineNames (path : Path) : IO (List String) := do
  let found ← IO.FS.realPath path
  return (← found.readDir).toList.map IO.FS.DirEntry.fileName

instance : FileHost IO where
  kind? := machineKind?
  readText path := do
    if (← machineKind? path) = some .folder then return .error .isADirectory
    attempt (IO.FS.readFile path)
  list path := attempt (machineNames path)
  makeFolders path := if path = "" then return .ok () else attempt (IO.FS.createDirAll path)
  write path text := attempt (IO.FS.writeFile path text)
  append path text := attempt do
    let handle ← IO.FS.Handle.mk path .append
    handle.putStr text

/-- A line of the log. -/
def logLine (format : String) (event : Event) : String :=
  if format = "json" then
    (Json.object [("level", .string event.level.name), ("message", .string event.message)]).compact
  else event.level.name ++ " " ++ event.message

/-- The text of a log: the events of the level that is asked for and of those above it. -/
def logText (log : LogOutput) : String :=
  match Level.ofName? log.level with
  | none => ""
  | some level =>
      .join ((log.events.filter fun event => event.level.rank ≤ level.rank).map fun event =>
        logLine log.format event ++ "\n")

/-- Writes the log to its file, or to the error output. -/
def writeLog (log : LogOutput) : IO Unit := do
  match log.file with
  | some file =>
      let _ : Except FileFault Unit ← FileHost.append file (logText log)
  | none => IO.eprint (logText log)

end SearchCollection.CommandLine

open SearchCollection CommandLine in
/-- Runs the program with the arguments of the machine. -/
def main (arguments : List String) : IO UInt32 := do
  let ended : Run ← run {
    arguments := arguments
    home := (← IO.getEnv "HOME").getD "."
    configuration := ← IO.getEnv "SEARCHSCHEMA_CONFIG"
    logFormat := ← IO.getEnv "LOG_FORMAT" }
  match ended.log with
  | some log => writeLog log
  | none => pure ()
  IO.print ended.ending.output
  IO.eprint ended.ending.errors
  return .ofNat ended.ending.exitCode
