import SearchCollection.Configuration.Files
import SearchCollection.Fault

/-! # Failures of commands

Why a command came to no end. A failure has a message and often a cause with a
message of its own; `Failure.report` shows all of them, the outermost first, the
way in which the program prints them.
-/

namespace SearchCollection.CommandLine

/-- What a failure goes back to. -/
inductive Cause where
  | fault (fault : Fault)
  | configuration (fault : ConfigurationFault)
  | file (fault : FileFault)
  /-- A text is not JSON. -/
  | json

/-- Why a command failed. -/
inductive Failure where
  | declarationsNotLoaded (path : Path) (fault : Fault)
  | collectionNotDeclared (collection : String) (path : Path)
  | schemaNotCompiled (collection : String) (fault : Fault)
  | queryByNotBuilt (collection : String) (fault : Fault)
  | severalDeclarations (count : Nat) (path : Path)
  | noDeclarations (path : Path)
  | recordsNotRead (path : Path) (fault : FileFault)
  | recordsNotJson (path : Path)
  | notAnswered (fault : Fault)
  | notConfigured (fault : ConfigurationFault)
  | logNotOpened (path : Path) (fault : FileFault)
  | problemsFound (count : Nat)

namespace Failure

/-- What was being done; none where the cause says it all. -/
def context? : Failure → Option String
  | .declarationsNotLoaded path _ => some s!"Failed to load declarations from {path.quoted}"
  | .collectionNotDeclared collection path =>
      some s!"Collection \x27{collection}\x27 is not declared in {path.quoted}"
  | .schemaNotCompiled collection _ => some s!"Failed to compile collection \x27{collection}\x27"
  | .queryByNotBuilt collection _ => some s!"Failed to build query_by for \x27{collection}\x27"
  | .severalDeclarations count path =>
      some s!"{count} declarations found in {path.quoted}, pick one with --collection"
  | .noDeclarations path => some s!"No declarations found in {path.quoted}"
  | .recordsNotRead path _ => some s!"Failed to read records from {path.quoted}"
  | .recordsNotJson path => some s!"Records in {path.quoted} are not valid JSON"
  | .notAnswered _ => none
  | .notConfigured _ => none
  | .logNotOpened path _ => some s!"Failed to open log file {path.quoted}"
  | .problemsFound count => some s!"{count} declaration(s) with problems"

/-- What the failure goes back to. -/
def cause? : Failure → Option Cause
  | .declarationsNotLoaded _ fault => some (.fault fault)
  | .schemaNotCompiled _ fault => some (.fault fault)
  | .queryByNotBuilt _ fault => some (.fault fault)
  | .recordsNotRead _ fault => some (.file fault)
  | .recordsNotJson _ => some .json
  | .notAnswered fault => some (.fault fault)
  | .notConfigured fault => some (.configuration fault)
  | .logNotOpened _ fault => some (.file fault)
  | _ => none

end Failure

/-- The messages of a cause. The fault of a file gives the reason once more by itself. -/
def Cause.messages : Cause → List String
  | .fault (.file reason) => [(Fault.file reason).message, reason.message]
  | .fault other => [other.message]
  | .configuration reason => [reason.message]
  | .file reason => [reason.message]
  | .json => ["the text is no JSON"]

/-- The messages of a failure, the outermost first. -/
def Failure.messages (failure : Failure) : List String :=
  failure.context?.toList ++ (failure.cause?.map Cause.messages).getD []

/-- A message behind a margin; its later lines are indented by as much as the margin is wide. -/
def indentLines (margin message : String) : String :=
  margin ++ message.replace "\n" ("\n" ++ .ofList (List.replicate margin.length ' '))

/-- The causes of a failure, each on a line of its own, and numbered if there are several. -/
def writeCauses : List String → String
  | [cause] => indentLines "    " cause
  | causes => "\n".intercalate (causes.zipIdx.map fun (cause, index) =>
      let number := toString index
      indentLines (.ofList (List.replicate (5 - number.length) ' ') ++ number ++ ": ") cause)

/-- The report of a failure. -/
def Failure.report (failure : Failure) : String :=
  match failure.messages with
  | [] => "Error: \n"
  | [message] => "Error: " ++ message ++ "\n"
  | message :: causes =>
      "Error: " ++ message ++ "\n\nCaused by:\n" ++ writeCauses causes ++ "\n"

end SearchCollection.CommandLine
