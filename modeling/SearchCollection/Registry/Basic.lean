import SearchCollection.Registry.Cache
import SearchCollection.Registry.Counters
import SearchCollection.Schema.Assembly
import SearchCollection.Schema.QueryBy
import SearchCollection.Document

/-! # The registry

The registry keeps the schema of every record type that has been asked for, and
beside it every field that has been resolved, by record type and declared name.
What is kept is handed out as one shared object: `Shared.stamp` tells two objects
apart. A schema that is not kept is assembled from the declaration of the
moment, with the fields that are kept. A fault on the way keeps the fields that
were resolved before it and no schema.
-/

namespace SearchCollection

/-- An object that is handed out more than once; its stamp tells it from every other. -/
structure Shared (α : Type) where
  stamp : Nat
  content : α

/-- A schema together with the shared objects that its fields are. -/
structure KeptSchema where
  schema : Schema
  fieldStamps : List Nat

structure Registry where
  schemas : Cache String (Shared KeptSchema) := {}
  /-- The resolved fields by record type and declared name. -/
  fields : Cache (String × String) (Shared Field) := {}
  schemaCounters : Counters := {}
  fieldCounters : Counters := {}
  /-- The stamp of the next object. -/
  nextStamp : Nat := 0

namespace Registry

/-- An answer, the registry after it, and what happened on the way. -/
structure Outcome (α : Type) where
  answer : Except Fault α
  registry : Registry
  events : List Event := []
  /-- How often the declaration of the record type was asked for. -/
  declarationReads : Nat := 0

/-- The outcome with another answer in place of a good one. -/
def Outcome.andThen {α β : Type} (outcome : Outcome α) (next : α → Except Fault β) : Outcome β where
  answer := outcome.answer.bind next
  registry := outcome.registry
  events := outcome.events
  declarationReads := outcome.declarationReads

/-- No schema and no field is kept, and nothing has been counted. -/
def empty : Registry := {}

/-- The resolved field of a record type, kept under its declared name. One that is kept already
is handed out whatever the option says. -/
def resolveField (registry : Registry) (record field : String) (option : Normalized) :
    Outcome (Shared Field) :=
  match registry.fields.get? (record, field) with
  | some kept =>
      { answer := .ok kept
        registry := { registry with fieldCounters := registry.fieldCounters.hit } }
  | none =>
      let missed := { registry with fieldCounters := registry.fieldCounters.miss }
      match Field.resolve record field option with
      | .error fault => { answer := .error fault, registry := missed }
      | .ok resolved =>
          let shared : Shared Field := ⟨registry.nextStamp, resolved⟩
          { answer := .ok shared
            registry := { missed with
              fields := missed.fields.add (record, field) shared
              nextStamp := registry.nextStamp + 1 }
            events := Field.resolutionEvents record option resolved }

/-- The resolved fields of the entries, in order, up to the first fault. -/
def resolveFields (registry : Registry) (record : String) :
    List (String × Normalized) → Outcome (List (Shared Field))
  | [] => { answer := .ok [], registry := registry }
  | (name, option) :: rest =>
      let first := registry.resolveField record name option
      match first.answer with
      | .error fault => { answer := .error fault, registry := first.registry, events := first.events }
      | .ok field =>
          let others := first.registry.resolveFields record rest
          { answer := others.answer.map (field :: ·)
            registry := others.registry
            events := first.events ++ others.events }

/-- The schema of the entries of a declaration, kept when it is assembled. -/
def assemble (registry : Registry) (record : String) (entries : List (String × Normalized)) :
    Outcome (Shared KeptSchema) :=
  let fields := registry.resolveFields record (Schema.fieldEntries entries)
  match fields.answer with
  | .error fault => { answer := .error fault, registry := fields.registry, events := fields.events }
  | .ok resolved =>
      match Schema.ofFields record entries (resolved.map Shared.content) with
      | .error fault =>
          { answer := .error fault, registry := fields.registry, events := fields.events }
      | .ok schema =>
          let shared : Shared KeptSchema :=
            ⟨fields.registry.nextStamp, schema, resolved.map Shared.stamp⟩
          { answer := .ok shared
            registry := { fields.registry with
              schemas := fields.registry.schemas.add record shared
              nextStamp := fields.registry.nextStamp + 1 }
            events := fields.events ++ [schema.assembledEvent] }

/-- The schema of a record type, kept under its name. -/
def resolve (registry : Registry) (type : RecordType) : Outcome (Shared KeptSchema) :=
  match registry.schemas.get? type.name with
  | some kept =>
      { answer := .ok kept
        registry := { registry with schemaCounters := registry.schemaCounters.hit }
        events := [.schemaHit type.name] }
  | none =>
      let missed := { registry with schemaCounters := registry.schemaCounters.miss }
      match type.declared with
      | .error fault =>
          { answer := .error fault
            registry := missed
            events := [.schemaMiss type.name]
            declarationReads := 1 }
      | .ok declaration =>
          let outcome := missed.assemble type.name (type.normalized declaration)
          { outcome with
            events := .schemaMiss type.name :: outcome.events
            declarationReads := 1 }

def collectionSchema (registry : Registry) (type : RecordType) : Outcome CollectionSchema :=
  (registry.resolve type).andThen fun kept => .ok kept.content.schema.collectionSchema

def queryBy (registry : Registry) (type : RecordType) : Outcome String :=
  (registry.resolve type).andThen fun kept => kept.content.schema.queryBy

/-- The document of a record. -/
def document (registry : Registry) (type : RecordType) (record : Record) : Outcome Document :=
  let outcome := registry.resolve type
  { outcome.andThen fun kept => .ok (kept.content.schema.document record) with
    events := outcome.events ++
      match outcome.answer with
      | .ok kept => kept.content.schema.documentEvents record
      | .error _ => [] }

/-- What the log is told of a record type that is ready to be used. -/
def readyEvents (registry : Registry) (schema : Schema) (type : RecordType) : List Event :=
  [.schemaReady type.name schema.fields.length,
   .registryState registry.schemas.size registry.schemaCounters.hitRate
    registry.schemaCounters.total]

/-- Resolves the schema and checks the default list of query fields, so that a fault shows
early. -/
def warm (registry : Registry) (type : RecordType) : Outcome Unit :=
  let outcome := registry.resolve type
  { outcome.andThen fun kept => kept.content.schema.queryBy.map fun _ => () with
    events := outcome.events ++
      match outcome.answer with
      | .ok kept =>
          match kept.content.schema.queryBy with
          | .ok _ => outcome.registry.readyEvents kept.content.schema type
          | .error _ => []
      | .error _ => [] }

/-- The problems of a declaration in words: the fault of its schema, or else the one of its
default list of query fields. The second is looked for with a second lookup. -/
def lint (registry : Registry) (type : RecordType) : Outcome (List String) :=
  let first := registry.resolve type
  match first.answer with
  | .error fault => { first with answer := .ok [fault.message] }
  | .ok _ =>
      let second := first.registry.queryBy type
      { answer := match second.answer with
          | .ok _ => .ok []
          | .error fault => .ok [fault.message]
        registry := second.registry
        events := first.events ++ second.events
        declarationReads := first.declarationReads + second.declarationReads }

/-- The problems of several declarations, under the names that have any. -/
def lintAll (registry : Registry) : List (String × RecordType) → Outcome (List (String × List String))
  | [] => { answer := .ok [], registry := registry }
  | (name, type) :: rest =>
      let first := registry.lint type
      let others := first.registry.lintAll rest
      { answer := first.answer.bind fun problems =>
          others.answer.map fun found => if problems.isEmpty then found else (name, problems) :: found
        registry := others.registry
        events := first.events ++ others.events
        declarationReads := first.declarationReads + others.declarationReads }

/-- Drops the schema and the fields of a record type. -/
def invalidate (registry : Registry) (record : String) : Outcome Unit :=
  let held := registry.schemas.contains record
  { answer := .ok ()
    registry := { registry with
      schemas := registry.schemas.drop (· = record)
      fields := registry.fields.drop (·.1 = record)
      schemaCounters :=
        if held then registry.schemaCounters.invalidate 1 else registry.schemaCounters }
    events := if held then [.schemaInvalidated record] else [] }

/-- Drops all schemas and fields. -/
def clear (registry : Registry) : Outcome Unit where
  answer := .ok ()
  registry := { registry with
    schemas := {}
    fields := {}
    schemaCounters := registry.schemaCounters.invalidate registry.schemas.size }
  events := [.registryCleared registry.schemas.size]

/-- Whether the schema of a record type is kept. -/
def isCached (registry : Registry) (record : String) : Bool :=
  registry.schemas.contains record

end Registry

end SearchCollection
