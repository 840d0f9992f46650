import SearchCollection.Document
import SearchCollection.Field.Resolution
import SearchCollection.Proofs.Options.Anonymous

/-! # Resolving a field without identities

Each of the three passes reads its entries without looking at identities, so a
field is resolved from an option without identities as it is from the option, up
to the identities in the field (`Field.resolve_anonymous`). A fault holds none and
is the same. The values of a field do not depend on identities either
(`Field.castValue_anonymous`).
-/

namespace SearchCollection

def ValueSource.anonymous : ValueSource → ValueSource
  | .read name => .read name
  | .constant value => .constant value
  | .computed callback => .computed callback.anonymous

def ValueTransform.anonymous : ValueTransform → ValueTransform
  | .identity => .identity
  | .custom callback => .custom callback.anonymous

def Modifiers.anonymous (modifiers : Modifiers) : Modifiers :=
  { modifiers with
    transform := modifiers.transform.anonymous
    source := modifiers.source.anonymous }

namespace Field

/-- The field without the identities of its functions. -/
def anonymous (field : Field) : Field :=
  { field with modifiers := field.modifiers.anonymous }

theorem typesOf_anonymous (map : OptionMap) :
    typesOf (map.map OptionMap.anonymousEntry) = typesOf map := by
  unfold typesOf
  rw [List.filterMap_map]
  refine List.filterMap_congr fun entry _ => ?_
  rw [Function.comp_apply, OptionMap.anonymousEntry, OptionValue.text?_anonymous]

/-- The first pass does not depend on the identities of functions. -/
theorem resolveType_anonymous (field : String) (map : OptionMap) :
    resolveType field (map.map OptionMap.anonymousEntry) = resolveType field map := by
  unfold resolveType
  rw [typesOf_anonymous]

/-- A modifier is set alike whatever the identity of the function it is given. -/
theorem applyModifier_anonymous (field : String) (sofar : Modifiers) (modifier : Modifier)
    (value : OptionValue) :
    applyModifier field sofar.anonymous modifier value.anonymous =
      (applyModifier field sofar modifier value).map Modifiers.anonymous := by
  cases modifier with
  | name =>
      simp only [applyModifier, OptionValue.text?_anonymous]
      cases value.text? with
      | none => rfl
      | some text => by_cases empty : text = "" <;> simp only [empty, ↓reduceIte] <;> rfl
  | locale =>
      simp only [applyModifier, OptionValue.text?_anonymous]
      cases value.text? <;> rfl
  | tokenSeparators =>
      simp only [applyModifier, OptionValue.characters?_anonymous]
      cases value.characters? <;> rfl
  | symbolsToIndex =>
      simp only [applyModifier, OptionValue.characters?_anonymous]
      cases value.characters? <;> rfl
  | transformTo => cases value <;> rfl
  | valueFrom =>
      cases value with
      | list items =>
          have constant := OptionValue.toValue_anonymous (.list items)
          rw [OptionValue.anonymous] at constant ⊢
          simp only [applyModifier, constant]
          rfl
      | _ => rfl

theorem resolveModifiersFrom_anonymous (field : String) (seen : List Modifier)
    (sofar : Modifiers) (map : OptionMap) :
    resolveModifiersFrom field seen sofar.anonymous (map.map OptionMap.anonymousEntry) =
      (resolveModifiersFrom field seen sofar map).map Modifiers.anonymous := by
  induction map generalizing seen sofar with
  | nil => rfl
  | cons entry rest ih =>
      have named : modifierOf? (OptionMap.anonymousEntry entry) = modifierOf? entry := rfl
      rw [List.map_cons, resolveModifiersFrom, resolveModifiersFrom, named]
      cases modifierOf? entry with
      | none => exact ih seen sofar
      | some modifier =>
          by_cases repeated : modifier ∈ seen
          · simp only [repeated, ↓reduceIte]
            rfl
          · have applied := applyModifier_anonymous field sofar modifier entry.2
            simp only [repeated, ↓reduceIte, OptionMap.anonymousEntry, applied]
            cases applyModifier field sofar modifier entry.2 with
            | error fault => rfl
            | ok next => exact ih (modifier :: seen) next

/-- The second pass only carries identities of functions along. -/
theorem resolveModifiers_anonymous (field : String) (map : OptionMap) :
    resolveModifiers field (map.map OptionMap.anonymousEntry) =
      (resolveModifiers field map).map Modifiers.anonymous :=
  resolveModifiersFrom_anonymous field [] (.default field) map

theorem parameterOf?_anonymous (entry : OptionKey × OptionValue) :
    parameterOf? (OptionMap.anonymousEntry entry) = parameterOf? entry := by
  unfold parameterOf? OptionMap.anonymousEntry
  rw [OptionValue.text?_anonymous]

theorem switchOf_anonymous (field : String) (parameter : Parameter)
    (entry : OptionKey × OptionValue) :
    switchOf field parameter (OptionMap.anonymousEntry entry) =
      switchOf field parameter entry := by
  unfold switchOf readSwitch OptionMap.anonymousEntry
  rw [OptionValue.boolean?_anonymous, OptionValue.describe_anonymous]

theorem resolveParametersFrom_anonymous (field : String) (sofar : List (Parameter × Bool))
    (map : OptionMap) :
    resolveParametersFrom field sofar (map.map OptionMap.anonymousEntry) =
      resolveParametersFrom field sofar map := by
  induction map generalizing sofar with
  | nil => rfl
  | cons entry rest ih =>
      simp only [List.map_cons, resolveParametersFrom, parameterOf?_anonymous, switchOf_anonymous,
        ih]

/-- The entries declare the same field, or have the same fault, but for the identities of
functions. -/
theorem ofMap_anonymous (field : String) (map : OptionMap) :
    ofMap field (map.map OptionMap.anonymousEntry) = (ofMap field map).map anonymous := by
  unfold ofMap resolveParameters
  rw [resolveType_anonymous, resolveModifiers_anonymous, resolveParametersFrom_anonymous]
  cases resolveType field map with
  | error fault => rfl
  | ok type =>
      cases resolveModifiers field map with
      | error fault => rfl
      | ok modifiers => cases resolveParametersFrom field [] map <;> rfl

/-- A field is resolved without a look at the identities in its option. -/
theorem resolve_anonymous (record field : String) (option : Normalized) :
    resolve record field option.anonymous = (resolve record field option).map anonymous := by
  unfold resolve
  rw [Normalized.entries_anonymous, ofMap_anonymous]
  cases ofMap field option.entries <;> rfl

/-- Options that differ in identities only are resolved to the same, up to identities. -/
theorem resolve_congr (record field : String) {first second : Normalized}
    (same : first.anonymous = second.anonymous) :
    (resolve record field first).map anonymous = (resolve record field second).map anonymous := by
  rw [← resolve_anonymous, ← resolve_anonymous, same]

/-- A field gives a document the same value without the identities of its functions. -/
theorem castValue_anonymous (field : Field) (record : Record) :
    field.anonymous.castValue record = field.castValue record := by
  obtain ⟨declaredName, type, ⟨name, locale, tokenSeparators, symbolsToIndex, transform, source⟩,
    parameters⟩ := field
  cases transform <;> cases source <;> rfl

end Field

end SearchCollection
