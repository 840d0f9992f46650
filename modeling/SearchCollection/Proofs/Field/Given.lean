import Mathlib.Data.List.Basic
import SearchCollection.Field.Resolution

/-! # What the entries of an option give

An entry of an option gives a field its type (`Field.NamesType`), a value of a
modifier or a switch of a parameter (`Field.Gives`), told apart by the key of the
entry and, for tokens without a name, by their value. `Modifier.Admits` says
which values a modifier takes. No entry gives two of the three, but an entry may
give none.
-/

namespace SearchCollection

namespace Modifier

/-- The value is one that the modifier takes. -/
def Admits (modifier : Modifier) (value : OptionValue) : Prop :=
  match modifier with
  | .name => ∃ text, value = .text text ∧ text ≠ ""
  | .locale => ∃ text, value = .text text
  | .tokenSeparators | .symbolsToIndex => ∃ texts, value.characters? = some texts
  | .transformTo => ∃ callback, value = .transform callback
  | .valueFrom => ∀ callback, value ≠ .transform callback

/-- The fault of a value that the modifier does not take. -/
def refusal (modifier : Modifier) (field : String) : DeclarationFault :=
  match modifier with
  | .name => .modifierNotAdmissible field .name .nonEmptyText
  | .locale => .modifierNotAdmissible field .locale .text
  | .tokenSeparators => .modifierNotAdmissible field .tokenSeparators .characters
  | .symbolsToIndex => .modifierNotAdmissible field .symbolsToIndex .characters
  | .transformTo => .modifierNotCallback field .transformTo .valueTransforming
  | .valueFrom => .modifierNotCallback field .valueFrom .record

end Modifier

namespace OptionValue

theorem text?_eq_some_iff {value : OptionValue} {text : String} :
    value.text? = some text ↔ value = .text text := by
  cases value <;> simp [text?]

end OptionValue

namespace Field

variable {entry : OptionKey × OptionValue} {key : OptionKey} {map : OptionMap}
  {modifier : Modifier} {parameter : Parameter}

/-- The key is the name of a modifier or of a parameter. -/
def Reserved (key : OptionKey) : Prop :=
  (∃ modifier : Modifier, key = .name modifier.key) ∨
    ∃ parameter : Parameter, key = .name parameter.name

/-- The entry names a type of fields, under a key that is free for it. -/
def NamesType (entry : OptionKey × OptionValue) : Prop :=
  ¬Reserved entry.1 ∧ ∃ type : FieldType, entry.2 = .text type.name

/-- The entry switches the parameter: its key names it, or it is a token without a name that
does. -/
def Gives (parameter : Parameter) (entry : OptionKey × OptionValue) : Prop :=
  entry.1 = .name parameter.name ∨
    ∃ position, entry = (.index position, .text parameter.name)

/-- The resolver reserves the names of modifiers and parameters. -/
theorem isReserved_iff : isReserved key = true ↔ Reserved key := by
  cases key with
  | index position => simp [isReserved, OptionKey.name?, Reserved]
  | name text =>
      simp only [isReserved, OptionKey.name?, Bool.or_eq_true, Option.isSome_iff_exists,
        Modifier.ofKey?_eq_some_iff, Parameter.ofName?_eq_some_iff, Reserved,
        OptionKey.name.injEq]
      exact or_congr (exists_congr fun _ => eq_comm) (exists_congr fun _ => eq_comm)

/-- The type that an entry names, as the first pass reads it. -/
def typeNamed? (entry : OptionKey × OptionValue) : Option FieldType :=
  if isReserved entry.1 then none else entry.2.text?.bind FieldType.ofName?

/-- An entry names a type by the type's name under a key that is not reserved. -/
theorem typeNamed?_eq_some_iff {type : FieldType} :
    typeNamed? entry = some type ↔ ¬Reserved entry.1 ∧ entry.2 = .text type.name := by
  rw [typeNamed?, ← isReserved_iff]
  split
  · next reserved => simp [reserved]
  · next free =>
      simp only [free, Bool.false_eq_true, not_false_eq_true, true_and, Option.bind_eq_some_iff,
        OptionValue.text?_eq_some_iff, FieldType.ofName?_eq_some_iff]
      constructor
      · rintro ⟨text, equal, rfl⟩
        exact equal
      · exact fun equal => ⟨type.name, equal, rfl⟩

/-- The first pass finds a type in an entry exactly when it names one. -/
theorem isSome_typeNamed?_iff : (typeNamed? entry).isSome ↔ NamesType entry := by
  rw [Option.isSome_iff_exists, NamesType]
  simp only [typeNamed?_eq_some_iff, exists_and_left]

instance : DecidablePred NamesType := fun _ => decidable_of_iff _ isSome_typeNamed?_iff

/-- An entry gives the modifier that its key names. -/
theorem modifierOf?_eq_some_iff :
    modifierOf? entry = some modifier ↔ entry.1 = .name modifier.key := by
  obtain ⟨key, value⟩ := entry
  cases key with
  | index position => simp [modifierOf?, OptionKey.name?]
  | name text =>
      simp only [modifierOf?, OptionKey.name?, Option.bind_some, Modifier.ofKey?_eq_some_iff,
        OptionKey.name.injEq]
      exact eq_comm

/-- The resolver finds the parameter that an entry gives. -/
theorem parameterOf?_eq_some_iff :
    parameterOf? entry = some parameter ↔ Gives parameter entry := by
  obtain ⟨key, value⟩ := entry
  cases key with
  | index position =>
      simp only [parameterOf?, Option.bind_eq_some_iff, OptionValue.text?_eq_some_iff,
        Parameter.ofName?_eq_some_iff, Gives, reduceCtorEq, false_or, Prod.mk.injEq,
        OptionKey.index.injEq, exists_and_right, exists_eq', true_and]
      constructor
      · rintro ⟨text, equal, rfl⟩
        exact equal
      · exact fun equal => ⟨parameter.name, equal, rfl⟩
  | name text =>
      simp only [parameterOf?, Parameter.ofName?_eq_some_iff, Gives, OptionKey.name.injEq,
        Prod.mk.injEq, reduceCtorEq, false_and, exists_false, or_false]
      exact eq_comm

instance : DecidablePred (Gives parameter) := fun _ =>
  decidable_of_iff _ parameterOf?_eq_some_iff

/-- A parameter is given as often as it is the one that an entry switches. -/
theorem countP_gives (parameter : Parameter) (map : OptionMap) :
    map.countP (Gives parameter) = (map.filterMap parameterOf?).count parameter := by
  rw [List.count_filterMap]
  refine List.countP_congr fun entry _ => ?_
  rw [decide_eq_true_iff, beq_iff_eq, parameterOf?_eq_some_iff]

theorem countP_key (modifier : Modifier) (map : OptionMap) :
    map.countP (fun entry => entry.1 = .name modifier.key) =
      (map.filterMap modifierOf?).count modifier := by
  rw [List.count_filterMap]
  refine List.countP_congr fun entry _ => ?_
  rw [decide_eq_true_iff, beq_iff_eq, modifierOf?_eq_some_iff]

end Field

end SearchCollection
