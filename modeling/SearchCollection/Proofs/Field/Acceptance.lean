import Mathlib.Data.List.Nodup
import SearchCollection.Proofs.Field.Passes

/-! # Which options a field accepts

An option declares a field exactly when its entries name one type, give no
modifier and no parameter twice, and give each a value that it takes
(`Field.Accepts`). What the field then is follows from the entries one by one.
An option that is not accepted has one fault (`Field.Refuses`): the number of
its types where that is not one, else that of the first entry that repeats a
modifier or gives it a value it does not take, else that of the first entry that
does so with a parameter. `Field.resolve_exact` says all of this of any option.
-/

namespace SearchCollection

namespace Field

variable {record field : String} {option : Normalized} {map : OptionMap}
  {cause : DeclarationFault}

/-- Every modifier is given at most once, with a value that it takes. -/
structure ModifiersFine (map : OptionMap) : Prop where
  once : ∀ modifier : Modifier, map.countP (fun entry => entry.1 = .name modifier.key) ≤ 1
  admissible : ∀ (modifier : Modifier) (value : OptionValue),
    (.name modifier.key, value) ∈ map → modifier.Admits value

/-- Every parameter is given at most once, by its name or as a token, and every entry with its
name has a Boolean. -/
structure ParametersFine (map : OptionMap) : Prop where
  once : ∀ parameter : Parameter, map.countP (Gives parameter) ≤ 1
  boolean : ∀ (parameter : Parameter) (value : OptionValue),
    (.name parameter.name, value) ∈ map → ∃ switch, value.boolean? = some switch

/-- The entries declare a field. -/
structure Accepts (map : OptionMap) : Prop where
  oneType : map.countP NamesType = 1
  modifiers : ModifiersFine map
  parameters : ParametersFine map

/-- The fault of the first entry that gives a modifier again or a value it does not take. -/
def ModifierFault (field : String) (map : OptionMap) (cause : DeclarationFault) : Prop :=
  ∃ before modifier value after, map = before ++ (.name modifier.key, value) :: after ∧
    ModifiersFine before ∧
    ((∃ entry ∈ before, entry.1 = .name modifier.key) ∧
        cause = .modifierRepeated field modifier ∨
      (∀ entry ∈ before, entry.1 ≠ .name modifier.key) ∧ ¬modifier.Admits value ∧
        cause = modifier.refusal field)

/-- The fault of the first entry with the name of a parameter and no Boolean, or that gives a
parameter again. -/
def ParameterFault (field : String) (map : OptionMap) (cause : DeclarationFault) : Prop :=
  ∃ before parameter entry after, map = before ++ entry :: after ∧ ParametersFine before ∧
    Gives parameter entry ∧
    (entry.1 = .name parameter.name ∧ entry.2.boolean? = none ∧
        cause = .parameterNotBoolean field parameter entry.2.describe ∨
      (entry.1 = .name parameter.name → ∃ switch, entry.2.boolean? = some switch) ∧
        (∃ earlier ∈ before, Gives parameter earlier) ∧
        cause = .parameterRepeated field parameter)

/-- The fault of entries that declare no field: types count before modifiers, and modifiers
before parameters. -/
inductive Refuses (field : String) (map : OptionMap) : DeclarationFault → Prop where
  | type (uncertain : map.countP NamesType ≠ 1) :
      Refuses field map (.notOneType field (map.countP NamesType))
  | modifier {cause : DeclarationFault} (oneType : map.countP NamesType = 1)
      (fault : ModifierFault field map cause) : Refuses field map cause
  | parameter {cause : DeclarationFault} (oneType : map.countP NamesType = 1)
      (modifiers : ModifiersFine map) (fault : ParameterFault field map cause) :
      Refuses field map cause

/-- No entry is at fault for a modifier exactly when all modifiers are fine. -/
theorem keyedFault?_modifierFault?_eq_none_iff :
    keyedFault? modifierOf? (modifierFault? field) [] map = none ↔ ModifiersFine map := by
  rw [keyedFault?_eq_none_iff (by simp [modifierFault?]), List.nodup_iff_count_le_one]
  simp only [List.not_mem_nil, false_implies, implies_true, true_and, modifierFault?_eq_none_iff,
    modifierOf?_eq_some_iff, ← countP_key]
  constructor
  · rintro ⟨once, admissible⟩
    exact ⟨once, fun modifier value member => admissible _ member modifier rfl⟩
  · rintro ⟨once, admissible⟩
    refine ⟨once, ?_⟩
    rintro ⟨key, value⟩ member modifier rfl
    exact admissible modifier value member

/-- No entry is at fault for a parameter exactly when all parameters are fine. -/
theorem keyedFault?_parameterFault?_eq_none_iff :
    keyedFault? parameterOf? (parameterFault? field) [] map = none ↔ ParametersFine map := by
  rw [keyedFault?_eq_none_iff parameterFault?_true_ne_none, List.nodup_iff_count_le_one]
  simp only [List.not_mem_nil, false_implies, implies_true, true_and, ← countP_gives]
  constructor
  · rintro ⟨once, passed⟩
    refine ⟨once, fun parameter value member => ?_⟩
    have keyed := parameterOf?_eq_some_iff.mpr
      (.inl rfl : Gives parameter (.name parameter.name, value))
    exact (parameterFault?_eq_none_iff keyed).mp (passed _ member parameter keyed) rfl
  · rintro ⟨once, boolean⟩
    refine ⟨once, fun entry member parameter keyed => ?_⟩
    refine (parameterFault?_eq_none_iff keyed).mpr fun named => ?_
    obtain ⟨key, value⟩ := entry
    subst named
    exact boolean parameter value member

/-- The first pass finds a type exactly when one entry and no other names one. -/
theorem exists_resolveType_iff :
    (∃ type, resolveType field map = .ok type) ↔ map.countP NamesType = 1 := by
  cases resolved : resolveType field map with
  | error cause => simp [(resolveType_eq_error_iff.mp resolved).1]
  | ok type => simp [(resolveType_eq_ok_iff.mp resolved).1]

/-- The second pass succeeds exactly when all modifiers are fine. -/
theorem exists_resolveModifiers_iff :
    (∃ modifiers, resolveModifiers field map = .ok modifiers) ↔ ModifiersFine map := by
  rw [exists_eq_ok_iff_of_error_iff fun _ => resolveModifiers_eq_error_iff,
    keyedFault?_modifierFault?_eq_none_iff]

/-- The third pass succeeds exactly when all parameters are fine. -/
theorem exists_resolveParameters_iff :
    (∃ parameters, resolveParameters field map = .ok parameters) ↔ ParametersFine map := by
  rw [exists_eq_ok_iff_of_error_iff fun _ => resolveParameters_eq_error_iff,
    keyedFault?_parameterFault?_eq_none_iff]

/-- The second pass fails with the fault of the first entry that is bad for a modifier. -/
theorem resolveModifiers_fault_iff :
    resolveModifiers field map = .error cause ↔ ModifierFault field map cause := by
  have given (before : OptionMap) (modifier : Modifier) :
      (modifier ∈ [] ∨ modifier ∈ before.filterMap modifierOf?) ↔
        ∃ entry ∈ before, entry.1 = .name modifier.key := by
    simp [List.mem_filterMap, modifierOf?_eq_some_iff]
  simp only [resolveModifiers_eq_error_iff, keyedFault?_eq_some_iff,
    keyedFault?_modifierFault?_eq_none_iff, modifierOf?_eq_some_iff, modifierFault?_eq_some_iff,
    decide_eq_true_eq, decide_eq_false_iff_not, given, not_exists, not_and]
  constructor
  · rintro ⟨before, ⟨key, value⟩, after, modifier, split, fine, rfl, fault⟩
    exact ⟨before, modifier, value, after, split, fine, fault⟩
  · rintro ⟨before, modifier, value, after, split, fine, fault⟩
    exact ⟨before, (.name modifier.key, value), after, modifier, split, fine, rfl, fault⟩

/-- The third pass fails with the fault of the first entry that is bad for a parameter. -/
theorem resolveParameters_fault_iff :
    resolveParameters field map = .error cause ↔ ParameterFault field map cause := by
  have given (before : OptionMap) (parameter : Parameter) :
      (parameter ∈ [] ∨ parameter ∈ before.filterMap parameterOf?) ↔
        ∃ entry ∈ before, Gives parameter entry := by
    simp [List.mem_filterMap, parameterOf?_eq_some_iff]
  rw [resolveParameters_eq_error_iff, keyedFault?_eq_some_iff]
  constructor
  · rintro ⟨before, entry, after, parameter, split, fine, keyed, fault⟩
    rw [keyedFault?_parameterFault?_eq_none_iff] at fine
    rw [parameterFault?_eq_some_iff keyed, decide_eq_true_iff, given] at fault
    exact ⟨before, parameter, entry, after, split, fine, parameterOf?_eq_some_iff.mp keyed, fault⟩
  · rintro ⟨before, parameter, entry, after, split, fine, gives, fault⟩
    have keyed := parameterOf?_eq_some_iff.mpr gives
    refine ⟨before, entry, after, parameter, split,
      keyedFault?_parameterFault?_eq_none_iff.mpr fine, keyed, ?_⟩
    rwa [parameterFault?_eq_some_iff keyed, decide_eq_true_iff, given]

/-- Entries are accepted exactly when they make a field. -/
theorem exists_ofMap_iff : (∃ result, ofMap field map = .ok result) ↔ Accepts map := by
  constructor
  · rintro ⟨result, made⟩
    obtain ⟨type, modifiers, parameters, typed, modified, switched, -⟩ := ofMap_eq_ok_iff.mp made
    exact ⟨exists_resolveType_iff.mp ⟨type, typed⟩,
      exists_resolveModifiers_iff.mp ⟨modifiers, modified⟩,
      exists_resolveParameters_iff.mp ⟨parameters, switched⟩⟩
  · rintro ⟨oneType, fineModifiers, fineParameters⟩
    obtain ⟨type, typed⟩ : ∃ type, resolveType field map = .ok type :=
      exists_resolveType_iff.mpr oneType
    obtain ⟨modifiers, modified⟩ : ∃ modifiers, resolveModifiers field map = .ok modifiers :=
      exists_resolveModifiers_iff.mpr fineModifiers
    obtain ⟨parameters, switched⟩ : ∃ parameters, resolveParameters field map = .ok parameters :=
      exists_resolveParameters_iff.mpr fineParameters
    exact ⟨_, ofMap_eq_ok_iff.mpr ⟨type, modifiers, parameters, typed, modified, switched, rfl⟩⟩

/-- Entries that are not accepted are refused with one fault. -/
theorem ofMap_eq_error_iff_refuses : ofMap field map = .error cause ↔ Refuses field map cause := by
  rw [ofMap_eq_error_iff, resolveType_eq_error_iff, exists_resolveType_iff,
    resolveModifiers_fault_iff, exists_resolveModifiers_iff, resolveParameters_fault_iff]
  constructor
  · rintro (⟨uncertain, rfl⟩ | ⟨oneType, fault | ⟨fine, fault⟩⟩)
    · exact .type uncertain
    · exact .modifier oneType fault
    · exact .parameter oneType fine fault
  · rintro (uncertain | ⟨oneType, fault⟩ | ⟨oneType, fine, fault⟩)
    · exact .inl ⟨uncertain, rfl⟩
    · exact .inr ⟨oneType, .inl fault⟩
    · exact .inr ⟨oneType, .inr ⟨fine, fault⟩⟩

/-- What a field made of entries is: each part is read off the entries that give it. -/
theorem parts_of_ofMap {result : Field} (made : ofMap field map = .ok result) :
    result.declaredName = field ∧
      (∃ entry ∈ map, NamesType entry ∧ entry.2 = .text result.type.name) ∧
      result.modifiers = ofGiven field (fun modifier => map.get? modifier.key) ∧
      result.parameters = map.filterMap switchGiven? := by
  obtain ⟨type, modifiers, parameters, typed, modified, switched, rfl⟩ := ofMap_eq_ok_iff.mp made
  exact ⟨rfl, (resolveType_eq_ok_iff.mp typed).2, eq_ofGiven_of_resolveModifiers modified,
    eq_switches_of_resolveParameters switched⟩

/-- **Exact acceptance of options.** An option resolves exactly when its entries are accepted.
The field then has the one type that they name, each modifier that they give or its default, and
the parameters that they switch, in order. Otherwise the fault is the one with which the entries
are refused. -/
theorem resolve_exact (record field : String) (option : Normalized) :
    ((∃ result, resolve record field option = .ok result) ↔ Accepts option.entries) ∧
    (∀ result, resolve record field option = .ok result →
      result.declaredName = field ∧
      (∃ entry ∈ option.entries, NamesType entry ∧ entry.2 = .text result.type.name) ∧
      result.modifiers = ofGiven field (fun modifier => option.entries.get? modifier.key) ∧
      result.parameters = option.entries.filterMap switchGiven?) ∧
    ∀ fault, resolve record field option = .error fault ↔
      ∃ cause, fault = .declaration record cause ∧ Refuses field option.entries cause := by
  refine ⟨?_, fun result resolved => ?_, fun fault => ?_⟩
  · simp only [resolve_eq_ok_iff]
    exact exists_ofMap_iff
  · exact parts_of_ofMap (resolve_eq_ok_iff.mp resolved)
  · simp only [resolve_eq_error_iff, ofMap_eq_error_iff_refuses]

end Field

end SearchCollection
