import SearchCollection.Files.Path

/-! # Reading arguments

The arguments of a command come in any order: options by their long or short
names, and values by position. The value of an option stands in the same
argument or is the next one, which then does not begin with a dash. No option is
given twice. Two dashes end the options. `ArgumentSpec.read` reads the arguments
of one level, up to the name of a command if the level has commands; what it
reads is looked at in the order of the arguments, so that asking for help or for
the version counts unless a mistake comes before it.
-/

namespace SearchCollection.CommandLine

/-- What an option takes. -/
inductive Takes where
  | nothing
  | text
  /-- A path, which is not empty. -/
  | path
deriving DecidableEq

/-- An option of a level. -/
structure Declared where
  long : String
  short : Option Char := none
  takes : Takes

/-- Why the arguments are not read to their end. -/
inductive Stop where
  | help
  | version
  | misuse
deriving DecidableEq

/-- The arguments that may be given at one place. -/
structure ArgumentSpec where
  options : List Declared
  /-- How many values may be given by position. -/
  positions : Nat := 0
  /-- The names of the commands, one of which ends the level. -/
  commands : List String := []
  showsVersion : Bool := false

/-- What has been read of a level. -/
structure Given where
  /-- The options and their values; an option that takes nothing has an empty one. -/
  options : List (String × String) := []
  positions : List String := []
  /-- The last option, as long as it is not settled: its value may be still to come. -/
  pending : Option (Declared × Option String) := none
  /-- The name of the command and the arguments behind it. -/
  command : Option (String × List String) := none

namespace Given

/-- Takes in an option with its value. -/
def add (given : Given) (option : Declared) (value : String) : Except Stop Given :=
  if (given.options.lookup option.long).isSome || option.takes = .path && value.isEmpty then
    .error .misuse
  else .ok { given with options := given.options ++ [(option.long, value)] }

/-- Takes in the last option, which must have its value by now. -/
def settle (given : Given) : Except Stop Given :=
  match given.pending with
  | none => .ok given
  | some (option, some value) => { given with pending := none }.add option value
  | some (_, none) => .error .misuse

/-- An option is named; its value stands in the same argument, or not. -/
def name (given : Given) (option : Declared) (value : Option String) : Except Stop Given := do
  let given ← given.settle
  match option.takes, value with
  | .nothing, none => given.add option ""
  | .nothing, some _ => .error .misuse
  | _, some value => given.add option value
  | _, none => return { given with pending := some (option, none) }

/-- A value by position. -/
def position (given : Given) (spec : ArgumentSpec) (value : String) : Except Stop Given := do
  let given ← given.settle
  if spec.positions ≤ given.positions.length || value.isEmpty then .error .misuse
  else return { given with positions := given.positions ++ [value] }

/-- A question that ends the reading. -/
def stop (given : Given) (reason : Stop) : Except Stop Given := do
  let _ ← given.settle
  .error reason

/-- Whether the last option waits for its value. -/
def awaitsValue (given : Given) : Bool :=
  given.pending.any fun option => option.2.isNone

/-- Gives the last option its value. -/
def answer (given : Given) (value : String) : Given :=
  { given with pending := given.pending.map fun option => (option.1, some value) }

end Given

namespace ArgumentSpec

/-- An option by its long name, with the value behind an equals sign. -/
def readLong (spec : ArgumentSpec) (given : Given) (cs : List Char) : Except Stop Given :=
  let (name, rest) := cs.span (· ≠ '=')
  let name := String.ofList name
  let value := if rest.isEmpty then none else some (String.ofList rest.tail)
  match spec.options.find? fun option => option.long = name with
  | some option => given.name option value
  | none =>
      if name = "help" && value.isNone then given.stop .help
      else if name = "version" && spec.showsVersion && value.isNone then given.stop .version
      else .error .misuse

/-- An option by its short name, with the value right behind it or behind an equals sign. -/
def readShort (spec : ArgumentSpec) (given : Given) (letter : Char) (rest : List Char) :
    Except Stop Given :=
  match spec.options.find? fun option => option.short = some letter with
  | some option =>
      match rest with
      | [] => given.name option none
      | '=' :: value => given.name option (some (.ofList value))
      | value => given.name option (some (.ofList value))
  | none =>
      if letter = 'h' then given.stop .help
      else if letter = 'V' && spec.showsVersion then given.stop .version
      else .error .misuse

/-- The arguments of a level. Behind two dashes all are values by position. -/
def readFrom (spec : ArgumentSpec) (given : Given) (optionsEnded : Bool) :
    List String → Except Stop Given
  | [] => .ok given
  | argument :: rest =>
      if optionsEnded then do
        let given ← given.position spec argument
        spec.readFrom given true rest
      else if !given.awaitsValue && spec.commands.contains argument then
        .ok { given with command := some (argument, rest) }
      else match argument.toList with
        | ['-', '-'] => spec.readFrom given true rest
        | '-' :: '-' :: cs => do
            let given ← spec.readLong given cs
            spec.readFrom given false rest
        | '-' :: letter :: cs => do
            let given ← spec.readShort given letter cs
            spec.readFrom given false rest
        | _ =>
            if given.awaitsValue then spec.readFrom (given.answer argument) false rest
            else do
              let given ← given.position spec argument
              spec.readFrom given false rest

/-- The arguments of a level. The last option before a command is not settled yet. -/
def read (spec : ArgumentSpec) (arguments : List String) : Except Stop Given :=
  spec.readFrom {} false arguments

end ArgumentSpec

/-- What the program is asked to do. -/
inductive Command where
  | compile (path : Option Path) (collection : Option String) (pretty : Bool)
  | queryBy (path : Option Path) (collection : Option String)
  | document (path : Path) (collection : Option String) (records : Path) (pretty : Bool)
  | lint (path : Option Path)

/-- The arguments of the program. -/
structure Invocation where
  configuration : Option Path
  logFormat : Option String
  command : Command

namespace Command

def collectionOption : Declared := ⟨"collection", some 'n', .text⟩

def prettyOption : Declared := ⟨"pretty", none, .nothing⟩

def recordOption : Declared := ⟨"record", some 'r', .path⟩

/-- The command of the name, as it is given; none if something that it needs is missing. -/
def build : String → Given → Option Command
  | "compile", given =>
      some (.compile given.positions.head? (given.options.lookup "collection")
        (given.options.lookup "pretty").isSome)
  | "query-by", given =>
      some (.queryBy given.positions.head? (given.options.lookup "collection"))
  | "document", given => do
      let path ← given.positions.head?
      let records ← given.options.lookup "record"
      return .document path (given.options.lookup "collection") records
        (given.options.lookup "pretty").isSome
  | "lint", given => some (.lint given.positions.head?)
  | _, _ => none

/-- The arguments that a command takes. -/
def spec : String → ArgumentSpec
  | "compile" => { options := [collectionOption, prettyOption], positions := 1 }
  | "query-by" => { options := [collectionOption], positions := 1 }
  | "document" =>
      { options := [collectionOption, recordOption, prettyOption], positions := 1 }
  | _ => { options := [], positions := 1 }

def names : List String := ["compile", "query-by", "document", "lint"]

/-- The command with its arguments. -/
def read (name : String) (arguments : List String) : Except Stop Command := do
  let given ← (spec name).read arguments
  let given ← given.settle
  match build name given with
  | some command => return command
  | none => .error .misuse

end Command

namespace Invocation

/-- The arguments before the command. -/
def spec : ArgumentSpec where
  options := [⟨"config", some 'c', .path⟩, ⟨"log-format", none, .text⟩]
  commands := Command.names ++ ["help"]
  showsVersion := true

/-- Help is asked for by a command; behind it one of the commands may be named. -/
def readHelp : List String → Stop
  | [] => .help
  | [name] => if spec.commands.contains name then .help else .misuse
  | _ => .misuse

/-- What the arguments ask for. A configuration file that no option names may be named by the
environment. -/
def read (arguments : List String) (configurationAsked : Option Path) :
    Except Stop Invocation := do
  let given ← spec.read arguments
  match given.command with
  | none => .error .misuse
  | some ("help", rest) => .error (readHelp rest)
  | some (name, rest) =>
      let command ← Command.read name rest
      let given ← given.settle
      let configuration := (given.options.lookup "config").or configurationAsked
      if configuration = some "" then .error .misuse
      return {
        configuration := configuration
        logFormat := given.options.lookup "log-format"
        command := command }

end Invocation

end SearchCollection.CommandLine
