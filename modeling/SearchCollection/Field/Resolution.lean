import SearchCollection.Field.Basic
import SearchCollection.Options.Boolean
import SearchCollection.Options.Characters
import SearchCollection.Event
import SearchCollection.Fault

/-! # Resolving a field

A field is resolved from the entries of its option in three passes: the type,
the modifiers, the parameters. The first pass that finds a fault decides, and in
a pass the first entry at fault. Entries that none of the passes uses are
reported (`unusedEntries`), and only where all passes succeed.
-/

namespace SearchCollection.Field

/-- Whether a key is the name of a modifier or a parameter. -/
def isReserved (key : OptionKey) : Bool :=
  match key.name? with
  | some name => (Modifier.ofKey? name).isSome || (Parameter.ofName? name).isSome
  | none => false

/-- The types that the entries name. An entry with a reserved key names none. -/
def typesOf (map : OptionMap) : List FieldType :=
  map.filterMap fun entry =>
    if isReserved entry.1 then none else entry.2.text?.bind FieldType.ofName?

/-- The one type that the entries name. -/
def resolveType (field : String) (map : OptionMap) : Except DeclarationFault FieldType :=
  match typesOf map with
  | [type] => .ok type
  | types => .error (.notOneType field types.length)

/-- The modifiers after one more of them has been given a value. -/
def applyModifier (field : String) (sofar : Modifiers) (modifier : Modifier)
    (value : OptionValue) : Except DeclarationFault Modifiers :=
  match modifier with
  | .name =>
      match value.text? with
      | some name =>
          if name = "" then .error (.modifierNotAdmissible field .name .nonEmptyText)
          else .ok { sofar with name := some name }
      | none => .error (.modifierNotAdmissible field .name .nonEmptyText)
  | .locale =>
      match value.text? with
      | some locale => .ok { sofar with locale := some locale }
      | none => .error (.modifierNotAdmissible field .locale .text)
  | .tokenSeparators =>
      match value.characters? with
      | some texts => .ok { sofar with tokenSeparators := some texts }
      | none => .error (.modifierNotAdmissible field .tokenSeparators .characters)
  | .symbolsToIndex =>
      match value.characters? with
      | some texts => .ok { sofar with symbolsToIndex := some texts }
      | none => .error (.modifierNotAdmissible field .symbolsToIndex .characters)
  | .transformTo =>
      match value with
      | .transform callback => .ok { sofar with transform := .custom callback }
      | _ => .error (.modifierNotCallback field .transformTo .valueTransforming)
  | .valueFrom =>
      match value with
      | .valueFrom callback => .ok { sofar with source := .computed callback }
      | .transform _ => .error (.modifierNotCallback field .valueFrom .record)
      | constant => .ok { sofar with source := .constant constant.toValue }

/-- The modifier that an entry gives a value to. -/
def modifierOf? (entry : OptionKey × OptionValue) : Option Modifier :=
  entry.1.name?.bind Modifier.ofKey?

/-- The modifiers of the entries that are left, when those in `seen` have been given already. -/
def resolveModifiersFrom (field : String) (seen : List Modifier) (sofar : Modifiers) :
    OptionMap → Except DeclarationFault Modifiers
  | [] => .ok sofar
  | entry :: rest =>
      match modifierOf? entry with
      | none => resolveModifiersFrom field seen sofar rest
      | some modifier =>
          if modifier ∈ seen then .error (.modifierRepeated field modifier)
          else
            match applyModifier field sofar modifier entry.2 with
            | .error fault => .error fault
            | .ok next => resolveModifiersFrom field (modifier :: seen) next rest

/-- What the modifiers among the entries say. -/
def resolveModifiers (field : String) (map : OptionMap) : Except DeclarationFault Modifiers :=
  resolveModifiersFrom field [] (.default field) map

/-- The parameter that an entry switches: the one that names it, or without a name the one that
is its value. -/
def parameterOf? (entry : OptionKey × OptionValue) : Option Parameter :=
  match entry.1 with
  | .name name => Parameter.ofName? name
  | .index _ => entry.2.text?.bind Parameter.ofName?

/-- What a value switches a parameter to. -/
def readSwitch (field : String) (parameter : Parameter) (value : OptionValue) :
    Except DeclarationFault Bool :=
  match value.boolean? with
  | some switch => .ok switch
  | none => .error (.parameterNotBoolean field parameter value.describe)

/-- What an entry switches its parameter to; a bare token switches it on. -/
def switchOf (field : String) (parameter : Parameter) (entry : OptionKey × OptionValue) :
    Except DeclarationFault Bool :=
  match entry.1 with
  | .name _ => readSwitch field parameter entry.2
  | .index _ => .ok true

/-- The parameters of the entries that are left, after those that have been read. -/
def resolveParametersFrom (field : String) (sofar : List (Parameter × Bool)) :
    OptionMap → Except DeclarationFault (List (Parameter × Bool))
  | [] => .ok sofar
  | entry :: rest =>
      match parameterOf? entry with
      | none => resolveParametersFrom field sofar rest
      | some parameter =>
          match switchOf field parameter entry with
          | .error fault => .error fault
          | .ok switch =>
              if parameter ∈ sofar.map Prod.fst then .error (.parameterRepeated field parameter)
              else resolveParametersFrom field (sofar ++ [(parameter, switch)]) rest

/-- The parameters among the entries, in order. -/
def resolveParameters (field : String) (map : OptionMap) :
    Except DeclarationFault (List (Parameter × Bool)) :=
  resolveParametersFrom field [] map

/-- The field that the entries of an option declare. -/
def ofMap (field : String) (map : OptionMap) : Except DeclarationFault Field := do
  let type ← resolveType field map
  let modifiers ← resolveModifiers field map
  let parameters ← resolveParameters field map
  return ⟨field, type, modifiers, parameters⟩

/-- The field that an option declares. -/
def resolve (record field : String) (option : Normalized) : Except Fault Field :=
  (ofMap field option.entries).mapError (.declaration record)

/-- Whether some pass looks at an entry. -/
def isUsed (entry : OptionKey × OptionValue) : Bool :=
  isReserved entry.1 ||
    match entry.1, entry.2.text? with
    | _, none => false
    | .name _, some word => (FieldType.ofName? word).isSome
    | .index _, some word => (FieldType.ofName? word).isSome || (Parameter.ofName? word).isSome

/-- The entries that have no effect, in order. -/
def unusedEntries (map : OptionMap) : OptionMap :=
  map.filter fun entry => !isUsed entry

/-- What the log is told of a resolved field. -/
def resolutionEvents (record : String) (option : Normalized) (resolved : Field) : List Event :=
  (unusedEntries option.entries).map (fun entry =>
    .optionIgnored record resolved.declaredName entry.1 entry.2) ++
  [.fieldResolved record resolved.declaredName resolved.type resolved.parameters.length]

/-- The field that an option declares, and what the log is told of it. A field that is not
resolved is not mentioned. -/
def resolveLogged (record field : String) (option : Normalized) : Logged (Except Fault Field) :=
  match resolve record field option with
  | .ok resolved => ⟨.ok resolved, resolutionEvents record option resolved⟩
  | .error fault => ⟨.error fault, []⟩

end SearchCollection.Field
