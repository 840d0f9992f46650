import SearchCollection.Vocabulary
import SearchCollection.Options.Outline
import SearchCollection.Value.Outline
import SearchCollection.Files.Path
import SearchCollection.Files.Fault

/-! # Events

What the library tells its log: each event has a level and a message. A result
that comes with the events on the way to it is a `Logged` value; binding two of
them keeps the events in order.
-/

namespace SearchCollection

/-- How much an event matters, the most severe first. -/
inductive Level where
  | warn
  | info
  | debug
  | trace
deriving DecidableEq

namespace Level

def rank : Level → Nat
  | .warn => 0
  | .info => 1
  | .debug => 2
  | .trace => 3

def name : Level → String
  | .warn => "WARN"
  | .info => "INFO"
  | .debug => "DEBUG"
  | .trace => "TRACE"

/-- The level of the name, in letters of either case. -/
def ofName? (name : String) : Option Level :=
  [warn, info, debug, trace].find? fun level => level.name = name.toUpper

end Level

/-- Something that the log is told. -/
inductive Event where
  | optionIgnored (record field : String) (key : OptionKey) (value : OptionValue)
  | fieldResolved (record field : String) (type : FieldType) (parameters : Nat)
  | schemaAssembled (record : String) (fields settings : Nat)
  | valueCast (field : String) (type : FieldType) (value : Value)
  | schemaHit (record : String)
  | schemaMiss (record : String)
  | schemaReady (record : String) (fields : Nat)
  | registryState (schemas : Nat) (hitRate : Binary64) (lookups : Nat)
  | schemaInvalidated (record : String)
  | registryCleared (schemas : Nat)
  | declarationReplaced (record : String) (source : Option Path)
  | declarationsLoaded (count : Nat) (folder : Path)
  | configNotSaved (path : Path) (cause : FileFault)

namespace Event

def level : Event → Level
  | .optionIgnored .. => .warn
  | .fieldResolved .. => .debug
  | .schemaAssembled .. => .debug
  | .valueCast .. => .trace
  | .schemaHit .. => .debug
  | .schemaMiss .. => .debug
  | .schemaReady .. => .info
  | .registryState .. => .debug
  | .schemaInvalidated .. => .debug
  | .registryCleared .. => .debug
  | .declarationReplaced .. => .warn
  | .declarationsLoaded .. => .debug
  | .configNotSaved .. => .warn

def message : Event → String
  | .optionIgnored record field key value =>
      s!"{record}.{field}: ignoring unrecognized field option {key.outline} = {value.describe}"
  | .fieldResolved record field type parameters =>
      s!"Resolved {record}.{field} as {type.name} ({parameters} parameters)"
  | .schemaAssembled record fields settings =>
      s!"Assembled schema for {record}: {fields} fields, {settings} settings"
  | .valueCast field type value => s!"Cast {field} as {type.name}: {value.outline}"
  | .schemaHit record => s!"Schema cache hit for {record}"
  | .schemaMiss record => s!"Schema cache miss for {record}, resolving"
  | .schemaReady record fields => s!"Schema for {record} ready ({fields} fields)"
  | .registryState schemas hitRate lookups =>
      s!"Registry holds {schemas} schemas, hit rate {hitRate.writeTwoPlaces} over " ++
        s!"{lookups} lookups"
  | .schemaInvalidated record => s!"Invalidated schema for {record}"
  | .registryCleared schemas => s!"Cleared {schemas} cached schemas"
  | .declarationReplaced record source =>
      let shown := match source with
        | some path => "Some(" ++ path.quoted ++ ")"
        | none => "None"
      s!"Collection {record} declared more than once, {shown} is overridden"
  | .declarationsLoaded count folder => s!"Loaded {count} declarations from {folder}"
  | .configNotSaved path cause =>
      s!"Could not write default config to {path.quoted}: {cause.message}"

end Event

/-- A result and the events on the way to it, in order. -/
structure Logged (α : Type u) where
  answer : α
  events : List Event

namespace Logged

instance : Monad Logged where
  pure answer := ⟨answer, []⟩
  bind first next :=
    let second := next first.answer
    ⟨second.answer, first.events ++ second.events⟩

/-- No result of interest, only an event. -/
def tell (event : Event) : Logged Unit :=
  ⟨(), [event]⟩

/-- The lines that a log of the given level shows. -/
def lines (level : Level) (events : List Event) : List String :=
  (events.filter fun event => event.level.rank ≤ level.rank).map fun event =>
    event.level.name ++ " " ++ event.message

end Logged

end SearchCollection
