import SearchCollection.CommandLine.Failure
import SearchCollection.DeclarationFile.Folder
import SearchCollection.Record.Json
import SearchCollection.Registry.Basic
import SearchCollection.Json.Reader

/-! # Commands

The four things that the program does with declarations: compile them to
collection schemas, list the fields that a query searches, turn records into
documents, and look for problems. Each command loads the declarations of a path,
or of the configured folder, and works on them with a registry of its own.
-/

namespace SearchCollection.CommandLine

/-- What commands come to, with what the log is told. -/
abbrev Finding (α : Type) := Logged (Except Failure α)

namespace Finding

def ok {α : Type} (value : α) (events : List Event) : Finding α := ⟨.ok value, events⟩

def failed {α : Type} (failure : Failure) (events : List Event) : Finding α :=
  ⟨.error failure, events⟩

end Finding

/-- The declarations of which only one collection is kept, if a collection is named. -/
def choose (types : FileRecordTypes) (path : Path) :
    Option String → Except Failure FileRecordTypes
  | none => .ok types
  | some collection =>
      match types.get? collection with
      | some type => .ok [(collection, type)]
      | none => .error (.collectionNotDeclared collection path)

section

variable {m : Type → Type} [Monad m] [FileHost m]

/-- The declarations that a command works on. -/
def loadDeclarations (configuration : Configuration) (path : Option Path)
    (collection : Option String) : m (Finding FileRecordTypes) := do
  let path := path.getD configuration.declarations
  let loaded ← configuration.declarationFolder.loadPath path
  return ⟨match loaded.answer with
    | .error fault => .error (.declarationsNotLoaded path fault)
    | .ok types => choose types path collection, loaded.events⟩

end

/-- Asks the registry about each record type in turn, up to the first fault. -/
def answerEach {α : Type} (ask : Registry → RecordType → Registry.Outcome α)
    (failure : String → Fault → Failure) (registry : Registry) :
    FileRecordTypes → Finding (List (String × α))
  | [] => .ok [] []
  | (name, type) :: rest =>
      let outcome := ask registry type.toRecordType
      match outcome.answer with
      | .error fault => .failed (failure name fault) outcome.events
      | .ok answer =>
          let later := answerEach ask failure outcome.registry rest
          ⟨later.answer.map ((name, answer) :: ·), outcome.events ++ later.events⟩

/-- The collection schemas of record types, by collection. -/
def schemas (types : FileRecordTypes) : Finding Json :=
  let compiled := answerEach Registry.collectionSchema .schemaNotCompiled .empty types
  ⟨compiled.answer.map fun found =>
    .object (Entries.ofList (found.map fun entry => (entry.1, entry.2.toJson))), compiled.events⟩

/-- The fields that a query searches by default, by collection. -/
def queryLists (types : FileRecordTypes) : Finding (List (String × String)) :=
  answerEach Registry.queryBy .queryByNotBuilt .empty types

/-- The problems of declarations, by collection, where there are any. -/
def problems (types : FileRecordTypes) : Finding (List (String × List String)) :=
  let outcome := Registry.empty.lintAll (types.map fun entry => (entry.1, entry.2.toRecordType))
  ⟨outcome.answer.mapError .notAnswered, outcome.events⟩

/-- The document of one record. -/
def documentOf (registry : Registry) (type : FileRecordType) (record : Json) :
    Registry.Outcome Json :=
  match AttributeRecord.ofJson record type.primaryKey type.instants with
  | .error fault => { answer := .error fault, registry := registry }
  | .ok record =>
      (registry.document type.toRecordType record.toRecord).andThen fun document =>
        .ok (.object document)

/-- The documents of records, up to the first fault. -/
def documentsOf (registry : Registry) (type : FileRecordType) :
    List Json → Finding (List Json)
  | [] => .ok [] []
  | record :: rest =>
      let outcome := documentOf registry type record
      match outcome.answer with
      | .error fault => .failed (.notAnswered fault) outcome.events
      | .ok document =>
          let later := documentsOf outcome.registry type rest
          ⟨later.answer.map (document :: ·), outcome.events ++ later.events⟩

/-- The documents of an array of records, or the one of a single record. -/
def documents (type : FileRecordType) : Json → Finding Json
  | .array records =>
      let built := documentsOf .empty type records
      ⟨built.answer.map .array, built.events⟩
  | record =>
      let outcome := documentOf .empty type record
      ⟨outcome.answer.mapError .notAnswered, outcome.events⟩

/-- The only record type among declarations. -/
def onlyType (types : FileRecordTypes) (path : Path) : Except Failure FileRecordType :=
  match types with
  | [] => .error (.noDeclarations path)
  | [(_, type)] => .ok type
  | types => .error (.severalDeclarations types.length path)

section

variable {m : Type → Type} [Monad m] [FileHost m]

/-- Works on the declarations that are loaded. -/
def withDeclarations {α : Type} (configuration : Configuration) (path : Option Path)
    (collection : Option String) (work : FileRecordTypes → Finding α) : m (Finding α) := do
  let loaded ← loadDeclarations configuration path collection
  match loaded.answer with
  | .error failure => return .failed failure loaded.events
  | .ok types =>
      let found := work types
      return ⟨found.answer, loaded.events ++ found.events⟩

/-- The collection schemas of the declarations. -/
def compile (configuration : Configuration) (path : Option Path) (collection : Option String) :
    m (Finding Json) :=
  withDeclarations configuration path collection schemas

/-- The fields that a query searches by default, for each of the declarations. -/
def queryBy (configuration : Configuration) (path : Option Path) (collection : Option String) :
    m (Finding (List (String × String))) :=
  withDeclarations configuration path collection queryLists

/-- The problems of the declarations. -/
def lint (configuration : Configuration) (path : Option Path) :
    m (Finding (List (String × List String))) :=
  withDeclarations configuration path none problems

/-- The records in a file. -/
def readRecords (path : Path) : m (Except Failure Json) := do
  match ← FileHost.readText path with
  | .error fault => return .error (.recordsNotRead path fault)
  | .ok text =>
      match Json.read? text with
      | some records => return .ok records
      | none => return .error (.recordsNotJson path)

/-- The documents of the records in a file, by the only one of the declarations. -/
def document (configuration : Configuration) (path : Path) (collection : Option String)
    (records : Path) : m (Finding Json) := do
  let loaded ← loadDeclarations configuration (some path) collection
  match loaded.answer.bind fun types => onlyType types path with
  | .error failure => return .failed failure loaded.events
  | .ok type =>
      match ← readRecords records with
      | .error failure => return .failed failure loaded.events
      | .ok records =>
          let built := documents type records
          return ⟨built.answer, loaded.events ++ built.events⟩

end

end SearchCollection.CommandLine
