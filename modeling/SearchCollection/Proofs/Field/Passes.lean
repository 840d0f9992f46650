import Mathlib.Logic.Function.Basic
import SearchCollection.Proofs.Field.Given
import SearchCollection.Proofs.Traversal

/-! # The three passes over an option

A field is resolved by three passes over the entries of its option, and each pass
is read here as a rule about all entries. The types named by the entries are
counted (`Field.resolveType_eq_ok_iff`). Modifiers and parameters are keyed items:
the fault of a pass is their first fault (`Field.resolveModifiers_eq_error_iff`,
`Field.resolveParameters_eq_error_iff`). Without a fault the modifiers are those
of the entries (`Field.eq_ofGiven_of_resolveModifiers`) and the parameters the
switches of the entries in order (`Field.eq_switches_of_resolveParameters`).
-/

namespace SearchCollection

namespace Field

variable {field record : String} {option : Normalized} {map rest : OptionMap}
  {entry : OptionKey × OptionValue} {cause : DeclarationFault}

/-! ## The passes together -/

/-- Entries declare a field exactly when all three passes succeed, and it has their results. -/
theorem ofMap_eq_ok_iff {result : Field} :
    ofMap field map = .ok result ↔
      ∃ type modifiers parameters, resolveType field map = .ok type ∧
        resolveModifiers field map = .ok modifiers ∧
        resolveParameters field map = .ok parameters ∧
        result = ⟨field, type, modifiers, parameters⟩ := by
  simp only [ofMap, bind, Except.bind, pure, Except.pure]
  cases resolveType field map <;> cases resolveModifiers field map <;>
    cases resolveParameters field map <;> simp [eq_comm]

/-- The first pass with a fault decides. -/
theorem ofMap_eq_error_iff :
    ofMap field map = .error cause ↔
      resolveType field map = .error cause ∨
      (∃ type, resolveType field map = .ok type) ∧
        (resolveModifiers field map = .error cause ∨
        (∃ modifiers, resolveModifiers field map = .ok modifiers) ∧
          resolveParameters field map = .error cause) := by
  simp only [ofMap, bind, Except.bind, pure, Except.pure]
  cases resolveType field map <;> cases resolveModifiers field map <;>
    cases resolveParameters field map <;> simp

/-- An option resolves to the field that its entries declare. -/
theorem resolve_eq_ok_iff {result : Field} :
    resolve record field option = .ok result ↔ ofMap field option.entries = .ok result :=
  mapError_eq_ok_iff

/-- An option that does not resolve has the fault of its entries, told for the record type. -/
theorem resolve_eq_error_iff {fault : Fault} :
    resolve record field option = .error fault ↔
      ∃ cause, fault = .declaration record cause ∧ ofMap field option.entries = .error cause := by
  rw [resolve, mapError_eq_error_iff]
  exact exists_congr fun cause => and_comm.trans (and_congr_left fun _ => eq_comm)

/-- A resolved field has the name it was declared under. -/
theorem declaredName_of_resolve {resolved : Field}
    (resolves : resolve record field option = .ok resolved) : resolved.declaredName = field := by
  obtain ⟨type, modifiers, parameters, -, -, -, rfl⟩ :=
    ofMap_eq_ok_iff.mp (resolve_eq_ok_iff.mp resolves)
  rfl

/-! ## The type -/

theorem typesOf_eq_filterMap (map : OptionMap) : typesOf map = map.filterMap typeNamed? := rfl

theorem length_typesOf (map : OptionMap) : (typesOf map).length = map.countP NamesType := by
  rw [typesOf_eq_filterMap, List.length_filterMap_eq_countP]
  refine List.countP_congr fun entry _ => ?_
  rw [decide_eq_true_iff, isSome_typeNamed?_iff]

theorem mem_typesOf_iff {type : FieldType} :
    type ∈ typesOf map ↔ ∃ entry ∈ map, NamesType entry ∧ entry.2 = .text type.name := by
  simp only [typesOf_eq_filterMap, List.mem_filterMap, typeNamed?_eq_some_iff, NamesType]
  constructor
  · rintro ⟨entry, member, free, named⟩
    exact ⟨entry, member, ⟨free, type, named⟩, named⟩
  · rintro ⟨entry, member, ⟨free, -⟩, named⟩
    exact ⟨entry, member, free, named⟩

/-- The type is that of the only entry that names one. -/
theorem resolveType_eq_ok_iff {type : FieldType} :
    resolveType field map = .ok type ↔
      map.countP NamesType = 1 ∧ ∃ entry ∈ map, NamesType entry ∧ entry.2 = .text type.name := by
  rw [← length_typesOf, ← mem_typesOf_iff, resolveType]
  split
  · next only one => simp [one, eq_comm]
  · next types several =>
      simp only [reduceCtorEq, false_iff, not_and]
      intro single member
      obtain ⟨only, one⟩ := List.length_eq_one_iff.mp single
      exact (several only one).elim

/-- The first pass fails exactly when not one type is named, and tells how many are. -/
theorem resolveType_eq_error_iff :
    resolveType field map = .error cause ↔
      map.countP NamesType ≠ 1 ∧ cause = .notOneType field (map.countP NamesType) := by
  rw [← length_typesOf, resolveType]
  split
  · next only one => simp [one]
  · next types several =>
      have notSingle : (typesOf map).length ≠ 1 := fun single => by
        obtain ⟨only, one⟩ := List.length_eq_one_iff.mp single
        exact several only one
      simp [notSingle, eq_comm]

/-! ## The modifiers -/

section Modifiers

variable {modifier : Modifier} {value : OptionValue} {sofar next result : Modifiers}
  {seen : List Modifier} {given : Modifier → Option OptionValue}

/-- The modifiers of a field for which some have been given values. -/
def ofGiven (field : String) (given : Modifier → Option OptionValue) : Modifiers where
  name := (given .name).bind OptionValue.text?
  locale := (given .locale).bind OptionValue.text?
  tokenSeparators := (given .tokenSeparators).bind OptionValue.characters?
  symbolsToIndex := (given .symbolsToIndex).bind OptionValue.characters?
  transform :=
    match given .transformTo with
    | some (.transform callback) => .custom callback
    | _ => .identity
  source :=
    match given .valueFrom with
    | some (.valueFrom callback) => .computed callback
    | some constant => .constant constant.toValue
    | none => .read field

/-- A value is taken exactly when the modifier admits it, whatever has been given before. -/
theorem applyModifier_eq_error_iff :
    applyModifier field sofar modifier value = .error cause ↔
      ¬modifier.Admits value ∧ cause = modifier.refusal field := by
  cases modifier with
  | name =>
      cases value with
      | text text => by_cases empty : text = "" <;>
          simp [applyModifier, OptionValue.text?, Modifier.Admits, Modifier.refusal, empty, eq_comm]
      | _ => simp [applyModifier, OptionValue.text?, Modifier.Admits, Modifier.refusal, eq_comm]
  | locale =>
      cases value <;>
        simp [applyModifier, OptionValue.text?, Modifier.Admits, Modifier.refusal, eq_comm]
  | tokenSeparators =>
      cases texts : value.characters? <;>
        simp [applyModifier, Modifier.Admits, Modifier.refusal, texts, eq_comm]
  | symbolsToIndex =>
      cases texts : value.characters? <;>
        simp [applyModifier, Modifier.Admits, Modifier.refusal, texts, eq_comm]
  | transformTo =>
      cases value <;> simp [applyModifier, Modifier.Admits, Modifier.refusal, eq_comm]
  | valueFrom =>
      cases value <;> simp [applyModifier, Modifier.Admits, Modifier.refusal, eq_comm]

/-- A modifier can be set exactly to the values it takes. -/
theorem exists_applyModifier_iff :
    (∃ next, applyModifier field sofar modifier value = .ok next) ↔ modifier.Admits value := by
  cases applied : applyModifier field sofar modifier value with
  | error cause => simp [(applyModifier_eq_error_iff.mp applied).1]
  | ok next =>
      refine iff_of_true ⟨next, rfl⟩ ?_
      by_contra refused
      rw [applyModifier_eq_error_iff.mpr ⟨refused, rfl⟩] at applied
      cases applied

/-- Giving one modifier a value leaves the others as they are. -/
theorem eq_ofGiven_of_applyModifier
    (applied : applyModifier field (ofGiven field given) modifier value = .ok next) :
    next = ofGiven field (Function.update given modifier (some value)) := by
  cases modifier with
  | name =>
      cases value with
      | text text =>
          by_cases empty : text = ""
          · simp [applyModifier, OptionValue.text?, empty] at applied
          · simp only [applyModifier, OptionValue.text?, empty, ↓reduceIte, Except.ok.injEq]
              at applied
            simp [← applied, ofGiven, OptionValue.text?]
      | _ => simp [applyModifier, OptionValue.text?] at applied
  | locale =>
      cases value <;> simp only [applyModifier, OptionValue.text?, Except.ok.injEq, reduceCtorEq]
        at applied
      simp [← applied, ofGiven, OptionValue.text?]
  | tokenSeparators =>
      cases texts : value.characters? <;>
        simp only [applyModifier, texts, Except.ok.injEq, reduceCtorEq] at applied
      simp [← applied, ofGiven, texts]
  | symbolsToIndex =>
      cases texts : value.characters? <;>
        simp only [applyModifier, texts, Except.ok.injEq, reduceCtorEq] at applied
      simp [← applied, ofGiven, texts]
  | transformTo =>
      cases value <;> simp only [applyModifier, Except.ok.injEq, reduceCtorEq] at applied
      simp [← applied, ofGiven]
  | valueFrom =>
      cases value <;> simp only [applyModifier, Except.ok.injEq, reduceCtorEq] at applied <;>
        simp [← applied, ofGiven]

/-- What is wrong with an entry that gives a modifier, if anything. -/
def modifierFault? (field : String) (repeated : Bool) (modifier : Modifier)
    (entry : OptionKey × OptionValue) : Option DeclarationFault :=
  if repeated then some (.modifierRepeated field modifier)
  else
    match applyModifier field (.default field) modifier entry.2 with
    | .error cause => some cause
    | .ok _ => none

/-- An entry is at fault for a modifier that was given before, or else for a value that is not
taken. -/
theorem modifierFault?_eq_some_iff {repeated : Bool} :
    modifierFault? field repeated modifier entry = some cause ↔
      repeated = true ∧ cause = .modifierRepeated field modifier ∨
      repeated = false ∧ ¬modifier.Admits entry.2 ∧ cause = modifier.refusal field := by
  cases repeated with
  | true => simp [modifierFault?, eq_comm]
  | false =>
      have refused : applyModifier field (.default field) modifier entry.2 = .error cause ↔
          ¬modifier.Admits entry.2 ∧ cause = modifier.refusal field := applyModifier_eq_error_iff
      simp only [modifierFault?, Bool.false_eq_true, ↓reduceIte, false_and, true_and, false_or,
        ← refused]
      cases applyModifier field (.default field) modifier entry.2 <;> simp

/-- A modifier given for the first time is at fault only for a value that is not taken. -/
theorem modifierFault?_eq_none_iff :
    modifierFault? field false modifier entry = none ↔ modifier.Admits entry.2 := by
  have taken : (∃ next, applyModifier field (.default field) modifier entry.2 = .ok next) ↔
      modifier.Admits entry.2 := exists_applyModifier_iff
  simp only [modifierFault?, Bool.false_eq_true, ↓reduceIte, ← taken]
  cases applyModifier field (.default field) modifier entry.2 <;> simp

/-- From any entry on, the second pass fails with the first fault of an entry. -/
theorem resolveModifiersFrom_eq_error_iff :
    resolveModifiersFrom field seen sofar map = .error cause ↔
      keyedFault? modifierOf? (modifierFault? field) seen map = some cause := by
  induction map generalizing seen sofar with
  | nil => simp [resolveModifiersFrom, keyedFault?]
  | cons entry rest ih =>
      cases keyed : modifierOf? entry with
      | none => rw [resolveModifiersFrom, keyed, keyedFault?_cons_of_none keyed, ih]
      | some modifier =>
          rw [resolveModifiersFrom, keyed, keyedFault?_cons_of_some keyed]
          by_cases given : modifier ∈ seen
          · simp [given, modifierFault?]
          · simp only [given, ↓reduceIte, decide_false]
            by_cases admits : modifier.Admits entry.2
            · obtain ⟨next, applied⟩ :
                  ∃ next, applyModifier field sofar modifier entry.2 = .ok next :=
                exists_applyModifier_iff.mpr admits
              rw [applied, modifierFault?_eq_none_iff.mpr admits, Option.none_or]
              exact ih
            · have refused : modifierFault? field false modifier entry =
                  some (modifier.refusal field) :=
                modifierFault?_eq_some_iff.mpr (.inr ⟨rfl, admits, rfl⟩)
              rw [applyModifier_eq_error_iff.mpr ⟨admits, rfl⟩, refused, Option.some_or,
                Except.error.injEq, Option.some.injEq]

/-- The second pass fails with the first fault of an entry. -/
theorem resolveModifiers_eq_error_iff :
    resolveModifiers field map = .error cause ↔
      keyedFault? modifierOf? (modifierFault? field) [] map = some cause :=
  resolveModifiersFrom_eq_error_iff

theorem name?_eq_some_iff {key : OptionKey} {name : String} :
    key.name? = some name ↔ key = .name name := by
  cases key <;> simp [OptionKey.name?]

/-- What is found under a name stands there. -/
theorem mem_of_get? {name : String} (found : map.get? name = some value) :
    (.name name, value) ∈ map := by
  obtain ⟨⟨key, held⟩, first, rfl⟩ := Option.map_eq_some_iff.mp found
  obtain rfl : key = .name name := name?_eq_some_iff.mp (by simpa using List.find?_some first)
  exact List.mem_of_find?_eq_some first

/-- Under a name that is given once, its value is found. -/
theorem get?_eq_some_iff_of_once {name : String}
    (once : map.countP (fun entry => entry.1 = .name name) ≤ 1) :
    map.get? name = some value ↔ (.name name, value) ∈ map := by
  refine ⟨mem_of_get?, fun member => ?_⟩
  obtain ⟨before, after, rfl⟩ := List.append_of_mem member
  rw [List.countP_append, List.countP_cons_of_pos (by simp)] at once
  have free : before.countP (fun entry => entry.1 = .name name) = 0 := by omega
  have missing : before.find? (fun entry => entry.1.name? = some name) = none := by
    simpa only [List.find?_eq_none, List.countP_eq_zero, name?_eq_some_iff] using free
  rw [OptionMap.get?, List.find?_append, missing, Option.none_or,
    List.find?_cons_of_pos (by simp [OptionKey.name?]), Option.map_some]

theorem get?_cons_of_modifierOf?_eq (keyed : modifierOf? entry = some modifier) :
    OptionMap.get? (entry :: rest) modifier.key = some entry.2 := by
  rw [modifierOf?_eq_some_iff] at keyed
  simp [OptionMap.get?, keyed, OptionKey.name?]

theorem get?_cons_of_modifierOf?_ne (other : modifierOf? entry ≠ some modifier) :
    OptionMap.get? (entry :: rest) modifier.key = OptionMap.get? rest modifier.key := by
  have unnamed : entry.1.name? ≠ some modifier.key := fun named =>
    other (by rw [modifierOf?, named, Option.bind_some, Modifier.ofKey?_key])
  simp [OptionMap.get?, unnamed]

/-- A modifier that no entry gives has no value. -/
theorem get?_eq_none_of_not_mem (absent : modifier ∉ map.filterMap modifierOf?) :
    OptionMap.get? map modifier.key = none := by
  induction map with
  | nil => rfl
  | cons entry rest ih =>
      have other : modifierOf? entry ≠ some modifier := fun keyed =>
        absent (List.mem_filterMap.mpr ⟨entry, List.mem_cons_self, keyed⟩)
      rw [get?_cons_of_modifierOf?_ne other]
      refine ih fun member => absent ?_
      obtain ⟨found, later, keyed⟩ := List.mem_filterMap.mp member
      exact List.mem_filterMap.mpr ⟨found, List.mem_cons_of_mem entry later, keyed⟩

/-- Without a fault no modifier that has been given is given again. -/
theorem not_mem_of_resolveModifiersFrom
    (resolved : resolveModifiersFrom field seen sofar map = .ok result)
    (member : modifier ∈ seen) : modifier ∉ map.filterMap modifierOf? := by
  have fine : keyedFault? modifierOf? (modifierFault? field) seen map = none := by
    rw [Option.eq_none_iff_forall_not_mem]
    intro cause failed
    rw [resolveModifiersFrom_eq_error_iff.mpr failed] at resolved
    cases resolved
  rw [keyedFault?_eq_none_iff (by simp [modifierFault?])] at fine
  exact fine.1 modifier member

/-- An entry counts as if its value had been given before the entries behind it. -/
theorem get?_cons_or (keyed : modifierOf? entry = some modifier)
    (once : modifier ∉ rest.filterMap modifierOf?) (other : Modifier) :
    (OptionMap.get? (entry :: rest) other.key).or (given other) =
      (OptionMap.get? rest other.key).or
        (Function.update given modifier (some entry.2) other) := by
  by_cases same : other = modifier
  · subst same
    rw [get?_eq_none_of_not_mem once, get?_cons_of_modifierOf?_eq keyed, Function.update_self]
    rfl
  · have differs : modifierOf? entry ≠ some other := by
      rw [keyed]
      exact fun equal => same (Option.some.inj equal).symm
    rw [get?_cons_of_modifierOf?_ne differs, Function.update_of_ne same]

/-- Without a fault the entries add their values to those given before. -/
theorem eq_ofGiven_of_resolveModifiersFrom
    (resolved : resolveModifiersFrom field seen (ofGiven field given) map = .ok result) :
    result = ofGiven field fun modifier =>
      (OptionMap.get? map modifier.key).or (given modifier) := by
  induction map generalizing seen given with
  | nil =>
      cases resolved
      rfl
  | cons entry rest ih =>
      rw [resolveModifiersFrom] at resolved
      cases keyed : modifierOf? entry with
      | none =>
          rw [keyed] at resolved
          rw [ih resolved]
          congr 1
          funext modifier
          rw [get?_cons_of_modifierOf?_ne (by simp [keyed])]
      | some modifier =>
          rw [keyed] at resolved
          by_cases repeated : modifier ∈ seen
          · simp [repeated] at resolved
          simp only [repeated, ↓reduceIte] at resolved
          cases applied : applyModifier field (ofGiven field given) modifier entry.2 with
          | error cause => simp [applied] at resolved
          | ok next =>
              simp only [applied] at resolved
              -- The head's modifier is in `seen` from here on, so no later entry gives it again.
              have once := not_mem_of_resolveModifiersFrom resolved List.mem_cons_self
              rw [eq_ofGiven_of_applyModifier applied] at resolved
              rw [ih resolved]
              congr 1
              funext other
              rw [get?_cons_or keyed once]

/-- Without a fault the modifiers are those that the entries give, and the defaults. -/
theorem eq_ofGiven_of_resolveModifiers (resolved : resolveModifiers field map = .ok result) :
    result = ofGiven field fun modifier => OptionMap.get? map modifier.key := by
  have initial : Modifiers.default field = ofGiven field fun _ => none := rfl
  rw [resolveModifiers, initial] at resolved
  rw [eq_ofGiven_of_resolveModifiersFrom resolved]
  simp only [Option.or_none]

end Modifiers

/-! ## The parameters -/

section Parameters

variable {parameter : Parameter} {sofar result : List (Parameter × Bool)} {seen : List Parameter}

/-- What an entry switches its parameter to, if it switches one to anything. -/
def switchGiven? : OptionKey × OptionValue → Option (Parameter × Bool)
  | (.name name, value) =>
      (Parameter.ofName? name).bind fun parameter => value.boolean?.map fun switch =>
        (parameter, switch)
  | (.index _, .text word) => (Parameter.ofName? word).map fun parameter => (parameter, true)
  | (.index _, _) => none

theorem switchGiven?_of_none (unkeyed : parameterOf? entry = none) :
    switchGiven? entry = none := by
  obtain ⟨key, value⟩ := entry
  cases key with
  | name name =>
      simp only [parameterOf?] at unkeyed
      simp [switchGiven?, unkeyed]
  | index position =>
      cases value with
      | text word =>
          simp only [parameterOf?, OptionValue.text?, Option.bind_some] at unkeyed
          simp [switchGiven?, unkeyed]
      | _ => rfl

/-- An entry switches its parameter to what the third pass finds. -/
theorem switchGiven?_of_switchOf {switch : Bool} (keyed : parameterOf? entry = some parameter)
    (switched : switchOf field parameter entry = .ok switch) :
    switchGiven? entry = some (parameter, switch) := by
  obtain ⟨key, value⟩ := entry
  cases key with
  | name name =>
      simp only [parameterOf?] at keyed
      simp only [switchOf, readSwitch] at switched
      cases read : value.boolean? with
      | none => simp [read] at switched
      | some found =>
          simp only [read, Except.ok.injEq] at switched
          simp [switchGiven?, keyed, read, switched]
  | index position =>
      cases value with
      | text word =>
          simp only [parameterOf?, OptionValue.text?, Option.bind_some] at keyed
          simp only [switchOf, Except.ok.injEq] at switched
          simp [switchGiven?, keyed, switched]
      | _ => simp [parameterOf?, OptionValue.text?] at keyed

/-- Only a named entry can fail to switch its parameter, when its value is no Boolean. -/
theorem switchOf_eq_error_iff (keyed : parameterOf? entry = some parameter) :
    switchOf field parameter entry = .error cause ↔
      entry.1 = .name parameter.name ∧ entry.2.boolean? = none ∧
        cause = .parameterNotBoolean field parameter entry.2.describe := by
  obtain ⟨key, value⟩ := entry
  cases key with
  | name name =>
      have same : name = parameter.name := (Parameter.ofName?_eq_some_iff.mp keyed).symm
      simp only [switchOf, readSwitch, same, true_and]
      cases value.boolean? <;> simp [eq_comm]
  | index position => simp [switchOf]

/-- What is wrong with an entry that switches a parameter, if anything. -/
def parameterFault? (field : String) (repeated : Bool) (parameter : Parameter)
    (entry : OptionKey × OptionValue) : Option DeclarationFault :=
  match switchOf field parameter entry with
  | .error cause => some cause
  | .ok _ => if repeated then some (.parameterRepeated field parameter) else none

/-- A parameter given again is always at fault. -/
theorem parameterFault?_true_ne_none (parameter : Parameter) (entry : OptionKey × OptionValue) :
    parameterFault? field true parameter entry ≠ none := by
  unfold parameterFault?
  cases switchOf field parameter entry <;> simp

/-- The switch of an entry is at fault before its being a second one. -/
theorem parameterFault?_eq_some_iff {repeated : Bool}
    (keyed : parameterOf? entry = some parameter) :
    parameterFault? field repeated parameter entry = some cause ↔
      entry.1 = .name parameter.name ∧ entry.2.boolean? = none ∧
          cause = .parameterNotBoolean field parameter entry.2.describe ∨
        (entry.1 = .name parameter.name → ∃ switch, entry.2.boolean? = some switch) ∧
          repeated = true ∧ cause = .parameterRepeated field parameter := by
  have failing (other : DeclarationFault) : switchOf field parameter entry = .error other ↔
      entry.1 = .name parameter.name ∧ entry.2.boolean? = none ∧
        other = .parameterNotBoolean field parameter entry.2.describe :=
    switchOf_eq_error_iff keyed
  unfold parameterFault?
  cases switched : switchOf field parameter entry with
  | error found =>
      obtain ⟨named, none, rfl⟩ := (failing found).mp switched
      simp [named, none, eq_comm]
  | ok switch =>
      have boolean (named : entry.1 = .name parameter.name) :
          ∃ switch, entry.2.boolean? = some switch := by
        rw [← Option.ne_none_iff_exists']
        intro none
        rw [(failing _).mpr ⟨named, none, rfl⟩] at switched
        cases switched
      have read : ¬(entry.1 = .name parameter.name ∧ entry.2.boolean? = none ∧
          cause = .parameterNotBoolean field parameter entry.2.describe) := by
        rintro ⟨named, none, -⟩
        obtain ⟨found, some⟩ := boolean named
        rw [none] at some
        cases some
      rw [or_iff_right read]
      cases repeated with
      | false => simp
      | true =>
          simp only [↓reduceIte, Option.some.injEq, true_and]
          exact ⟨fun same => ⟨boolean, same.symm⟩, fun same => same.2.symm⟩

/-- A parameter given for the first time is at fault only for a named value that is no Boolean. -/
theorem parameterFault?_eq_none_iff (keyed : parameterOf? entry = some parameter) :
    parameterFault? field false parameter entry = none ↔
      (entry.1 = .name parameter.name → ∃ switch, entry.2.boolean? = some switch) := by
  rw [Option.eq_none_iff_forall_not_mem]
  simp only [Option.mem_def, parameterFault?_eq_some_iff keyed, Bool.false_eq_true, false_and,
    and_false, or_false, not_and, ← Option.ne_none_iff_exists']
  constructor
  · exact fun fine named none => fine _ named none rfl
  · exact fun some _ named none => (some named none).elim

/-- From any entry on, the third pass fails with the first fault of an entry. -/
theorem resolveParametersFrom_eq_error_iff
    (same : ∀ parameter, parameter ∈ seen ↔ parameter ∈ sofar.map Prod.fst) :
    resolveParametersFrom field sofar map = .error cause ↔
      keyedFault? parameterOf? (parameterFault? field) seen map = some cause := by
  induction map generalizing seen sofar with
  | nil => simp [resolveParametersFrom, keyedFault?]
  | cons entry rest ih =>
      cases keyed : parameterOf? entry with
      | none => rw [resolveParametersFrom, keyed, keyedFault?_cons_of_none keyed, ih same]
      | some parameter =>
          rw [resolveParametersFrom, keyed, keyedFault?_cons_of_some keyed, parameterFault?]
          cases switched : switchOf field parameter entry with
          | error found => simp [switched]
          | ok switch =>
              simp only [switched, ← same parameter]
              by_cases given : parameter ∈ seen
              · simp [given]
              · simp only [given, ↓reduceIte, decide_false, Bool.false_eq_true, Option.none_or]
                refine ih fun other => ?_
                rw [List.map_append, List.mem_append, List.mem_cons, same other]
                simp [or_comm]

/-- The third pass fails with the first fault of an entry. -/
theorem resolveParameters_eq_error_iff :
    resolveParameters field map = .error cause ↔
      keyedFault? parameterOf? (parameterFault? field) [] map = some cause :=
  resolveParametersFrom_eq_error_iff fun _ => Iff.rfl

/-- The third pass adds the switches of the entries in their order. -/
theorem eq_append_switches_of_resolveParametersFrom
    (resolved : resolveParametersFrom field sofar map = .ok result) :
    result = sofar ++ map.filterMap switchGiven? := by
  induction map generalizing sofar with
  | nil =>
      cases resolved
      exact (List.append_nil _).symm
  | cons entry rest ih =>
      rw [resolveParametersFrom] at resolved
      cases keyed : parameterOf? entry with
      | none =>
          rw [keyed] at resolved
          rw [ih resolved, List.filterMap_cons_none (switchGiven?_of_none keyed)]
      | some parameter =>
          rw [keyed] at resolved
          cases switched : switchOf field parameter entry with
          | error cause => simp [switched] at resolved
          | ok switch =>
              simp only [switched] at resolved
              split at resolved
              · cases resolved
              · rw [ih resolved, List.append_assoc, List.singleton_append,
                  List.filterMap_cons_some (switchGiven?_of_switchOf keyed switched)]

/-- Without a fault the parameters are the switches that the entries give, in order. -/
theorem eq_switches_of_resolveParameters (resolved : resolveParameters field map = .ok result) :
    result = map.filterMap switchGiven? :=
  eq_append_switches_of_resolveParametersFrom resolved

/-- The parameters switched are those that the entries give. -/
theorem names_of_resolveParametersFrom
    (resolved : resolveParametersFrom field sofar map = .ok result) :
    result.map Prod.fst = sofar.map Prod.fst ++ map.filterMap parameterOf? := by
  induction map generalizing sofar with
  | nil =>
      cases resolved
      exact (List.append_nil _).symm
  | cons entry rest ih =>
      rw [resolveParametersFrom] at resolved
      cases keyed : parameterOf? entry with
      | none =>
          rw [keyed] at resolved
          rw [ih resolved, List.filterMap_cons_none keyed]
      | some parameter =>
          rw [keyed] at resolved
          cases switched : switchOf field parameter entry with
          | error cause => simp [switched] at resolved
          | ok switch =>
              simp only [switched] at resolved
              split at resolved
              · cases resolved
              · rw [ih resolved, List.filterMap_cons_some keyed, List.map_append, List.append_assoc]
                rfl

/-- Without a fault every entry that gives a parameter has its place among the parameters. -/
theorem names_of_resolveParameters (resolved : resolveParameters field map = .ok result) :
    result.map Prod.fst = map.filterMap parameterOf? :=
  names_of_resolveParametersFrom resolved

end Parameters

end Field

end SearchCollection
