import SearchCollection.Registry.Basic

/-! # Requests to a registry

A run of a registry is a list of requests, each answered by the registry that the
one before it left (`Registry.answers`). The registry replies with shared objects
where a schema or a field is asked for; `Reply.content` is what they hold.
`Request.direct` answers a request without any registry, by assembling the record
type anew or resolving the field anew.
-/

namespace SearchCollection

/-- What a registry can be asked to do. -/
inductive Request where
  | resolve (type : RecordType)
  | collectionSchema (type : RecordType)
  | queryBy (type : RecordType)
  | warm (type : RecordType)
  | lint (type : RecordType)
  | document (type : RecordType) (record : Record)
  | resolveField (record field : String) (option : Normalized)
  | invalidate (record : String)
  | clear

/-- The reply to a request, with schemas given as `σ` and fields as `φ`. -/
inductive Reply (σ φ : Type) where
  | schema (value : σ)
  | collection (value : CollectionSchema)
  | queryFields (names : String)
  | problems (texts : List String)
  | document (value : Document)
  | field (value : φ)
  | done

namespace Reply

variable {σ σ' φ φ' : Type}

def map (onSchema : σ → σ') (onField : φ → φ') : Reply σ φ → Reply σ' φ'
  | .schema value => .schema (onSchema value)
  | .collection value => .collection value
  | .queryFields names => .queryFields names
  | .problems texts => .problems texts
  | .document value => .document value
  | .field value => .field (onField value)
  | .done => .done

/-- What the shared objects of a reply hold. -/
def content (reply : Reply (Shared KeptSchema) (Shared Field)) : Reply Schema Field :=
  reply.map (fun shared => shared.content.schema) Shared.content

end Reply

namespace Registry

/-- The registry answers a request. -/
def perform (registry : Registry) :
    Request → Outcome (Reply (Shared KeptSchema) (Shared Field))
  | .resolve type => (registry.resolve type).andThen fun shared => .ok (.schema shared)
  | .collectionSchema type =>
      (registry.collectionSchema type).andThen fun collection => .ok (.collection collection)
  | .queryBy type => (registry.queryBy type).andThen fun names => .ok (.queryFields names)
  | .warm type => (registry.warm type).andThen fun _ => .ok .done
  | .lint type => (registry.lint type).andThen fun texts => .ok (.problems texts)
  | .document type record =>
      (registry.document type record).andThen fun document => .ok (.document document)
  | .resolveField record field option =>
      (registry.resolveField record field option).andThen fun shared => .ok (.field shared)
  | .invalidate record => (registry.invalidate record).andThen fun _ => .ok .done
  | .clear => registry.clear.andThen fun _ => .ok .done

/-- The answers to requests that are made one after the other. -/
def answers (registry : Registry) :
    List Request → List (Except Fault (Reply (Shared KeptSchema) (Shared Field)))
  | [] => []
  | request :: rest =>
      let outcome := registry.perform request
      outcome.answer :: outcome.registry.answers rest

end Registry

/-- The problems of a record type in words, found without a registry. -/
def RecordType.problems (type : RecordType) : List String :=
  match (assemble type).bind Schema.queryBy with
  | .ok _ => []
  | .error fault => [fault.message]

/-- The answer to a request without a registry. -/
def Request.direct : Request → Except Fault (Reply Schema Field)
  | .resolve type => (assemble type).map .schema
  | .collectionSchema type =>
      (assemble type).map fun schema => .collection schema.collectionSchema
  | .queryBy type => ((assemble type).bind Schema.queryBy).map .queryFields
  | .warm type => ((assemble type).bind Schema.queryBy).map fun _ => .done
  | .lint type => .ok (.problems type.problems)
  | .document type record => (assemble type).map fun schema => .document (schema.document record)
  | .resolveField record field option => (Field.resolve record field option).map .field
  | .invalidate _ => .ok .done
  | .clear => .ok .done

end SearchCollection
