import Mathlib.Data.List.FinRange
import SearchCollection.Proofs.Field.Acceptance

/-! # Entries without effect

When an option is resolved, the log is warned of the entries that no pass looks at. They are
exactly the entries without effect (`Field.warnings_exact`): if such an entry is left out, the
option declares the same field, and if any other one is left out, it declares another field or
none at all. To see the second, a used entry is the only one that names a type, or gives a
modifier that the field then lacks (`Modifiers.Sets`), or adds one to the number of parameters.
-/

namespace SearchCollection

/-! ## Fields that are the same -/

/-- The two sources are the same, functions by identity. -/
inductive ValueSource.Same : ValueSource → ValueSource → Prop where
  | read (name : String) : Same (.read name) (.read name)
  | constant (value : Value) : Same (.constant value) (.constant value)
  | computed {first second : Callback Record Value} (identity : first.identity = second.identity) :
      Same (.computed first) (.computed second)

/-- The two transforms are the same, functions by identity. -/
inductive ValueTransform.Same : ValueTransform → ValueTransform → Prop where
  | identity : Same .identity .identity
  | custom {first second : Callback Value Value} (identity : first.identity = second.identity) :
      Same (.custom first) (.custom second)

/-- The modifiers say the same, functions by identity. -/
structure Modifiers.Same (first second : Modifiers) : Prop where
  name : first.name = second.name
  locale : first.locale = second.locale
  tokenSeparators : first.tokenSeparators = second.tokenSeparators
  symbolsToIndex : first.symbolsToIndex = second.symbolsToIndex
  transform : first.transform.Same second.transform
  source : first.source.Same second.source

/-- The two fields are the same, functions by identity. -/
structure Field.Same (first second : Field) : Prop where
  declaredName : first.declaredName = second.declaredName
  type : first.type = second.type
  modifiers : first.modifiers.Same second.modifiers
  parameters : first.parameters = second.parameters

theorem ValueSource.Same.refl (source : ValueSource) : source.Same source := by
  cases source with
  | read name => exact .read name
  | constant value => exact .constant value
  | computed callback => exact .computed rfl

theorem ValueTransform.Same.refl (transform : ValueTransform) : transform.Same transform := by
  cases transform with
  | identity => exact .identity
  | custom callback => exact .custom rfl

/-- Only an attribute is the same source as an attribute. -/
theorem ValueSource.Same.eq_read {first second : ValueSource} (same : first.Same second)
    {name : String} (read : first = .read name) : second = .read name := by
  subst read
  cases same
  rfl

theorem ValueTransform.Same.eq_identity {first second : ValueTransform} (same : first.Same second)
    (identity : first = .identity) : second = .identity := by
  subst identity
  cases same
  rfl

theorem Field.Same.refl (field : Field) : field.Same field where
  declaredName := rfl
  type := rfl
  modifiers := ⟨rfl, rfl, rfl, rfl, .refl _, .refl _⟩
  parameters := rfl

namespace Modifiers

/-- The modifier has been given a value. -/
def Sets (modifiers : Modifiers) : Modifier → Prop
  | .name => ∃ name, modifiers.name = some name
  | .locale => ∃ locale, modifiers.locale = some locale
  | .tokenSeparators => ∃ texts, modifiers.tokenSeparators = some texts
  | .symbolsToIndex => ∃ texts, modifiers.symbolsToIndex = some texts
  | .transformTo => modifiers.transform ≠ .identity
  | .valueFrom => ∀ name, modifiers.source ≠ .read name

/-- Of modifiers that say the same, the same are set. -/
theorem Same.sets {first second : Modifiers} (same : first.Same second) {modifier : Modifier}
    (sets : second.Sets modifier) : first.Sets modifier := by
  cases modifier with
  | name => rwa [Sets, same.name]
  | locale => rwa [Sets, same.locale]
  | tokenSeparators => rwa [Sets, same.tokenSeparators]
  | symbolsToIndex => rwa [Sets, same.symbolsToIndex]
  | transformTo => exact fun identity => sets (same.transform.eq_identity identity)
  | valueFrom => exact fun name read => sets name (same.source.eq_read read)

end Modifiers

namespace Field

variable {record field : String} {map before after : OptionMap}
  {entry : OptionKey × OptionValue} {given : Modifier → Option OptionValue} {modifier : Modifier}
  {value : OptionValue} {whole rest : Field}

/-- A modifier given a value that it takes is set. -/
theorem sets_ofGiven (some : given modifier = some value) (admits : modifier.Admits value) :
    (ofGiven field given).Sets modifier := by
  cases modifier with
  | name =>
      obtain ⟨text, rfl, -⟩ := admits
      exact ⟨text, by simp [ofGiven, some, OptionValue.text?]⟩
  | locale =>
      obtain ⟨text, rfl⟩ := admits
      exact ⟨text, by simp [ofGiven, some, OptionValue.text?]⟩
  | tokenSeparators =>
      obtain ⟨texts, read⟩ := admits
      exact ⟨texts, by simp [ofGiven, some, read]⟩
  | symbolsToIndex =>
      obtain ⟨texts, read⟩ := admits
      exact ⟨texts, by simp [ofGiven, some, read]⟩
  | transformTo =>
      obtain ⟨callback, rfl⟩ := admits
      simp [Modifiers.Sets, ofGiven, some]
  | valueFrom => cases value <;> simp [Modifiers.Sets, ofGiven, some]

/-- A modifier given no value is not set. -/
theorem not_sets_ofGiven (none : given modifier = none) :
    ¬(ofGiven field given).Sets modifier := by
  cases modifier <;> simp [Modifiers.Sets, ofGiven, none]

/-! ## Entries that no pass looks at -/

/-- An entry is used by the pass over types, that over modifiers or that over parameters. -/
theorem isUsed_iff :
    isUsed entry = true ↔
      NamesType entry ∨ (∃ modifier, modifierOf? entry = some modifier) ∨
        ∃ parameter, parameterOf? entry = some parameter := by
  rw [← isSome_typeNamed?_iff]
  obtain ⟨key, value⟩ := entry
  cases key with
  | index position =>
      cases value <;>
        simp [isUsed, isReserved, OptionKey.name?, OptionValue.text?, typeNamed?, modifierOf?,
          parameterOf?, Option.isSome_iff_exists]
  | name name =>
      by_cases reserved : isReserved (.name name) = true
      · have keyed := reserved
        simp only [isReserved, OptionKey.name?, Bool.or_eq_true, Option.isSome_iff_exists] at keyed
        simp [isUsed, typeNamed?, modifierOf?, parameterOf?, OptionKey.name?, reserved, keyed]
      · have free := reserved
        simp only [isReserved, OptionKey.name?, Bool.or_eq_true, Option.isSome_iff_exists] at free
        rw [or_iff_left (by simpa [modifierOf?, parameterOf?, OptionKey.name?] using free)]
        cases value <;> simp [isUsed, typeNamed?, reserved, OptionValue.text?]

/-- An entry that gives no modifier makes no difference to the second pass. -/
theorem resolveModifiersFrom_of_none (unkeyed : modifierOf? entry = none) {seen : List Modifier}
    {sofar : Modifiers} :
    resolveModifiersFrom field seen sofar (before ++ entry :: after) =
      resolveModifiersFrom field seen sofar (before ++ after) := by
  induction before generalizing seen sofar with
  | nil => rw [List.nil_append, resolveModifiersFrom, unkeyed, List.nil_append]
  | cons first before ih => simp only [List.cons_append, resolveModifiersFrom, ih]

/-- An entry that gives no parameter makes no difference to the third pass. -/
theorem resolveParametersFrom_of_none (unkeyed : parameterOf? entry = none)
    {sofar : List (Parameter × Bool)} :
    resolveParametersFrom field sofar (before ++ entry :: after) =
      resolveParametersFrom field sofar (before ++ after) := by
  induction before generalizing sofar with
  | nil => rw [List.nil_append, resolveParametersFrom, unkeyed, List.nil_append]
  | cons first before ih => simp only [List.cons_append, resolveParametersFrom, ih]

/-- An entry that is not used changes nothing, neither the field nor the fault. -/
theorem ofMap_of_unused (unused : isUsed entry = false) :
    ofMap field (before ++ entry :: after) = ofMap field (before ++ after) := by
  have unnamed := mt isUsed_iff.mpr (Bool.eq_false_iff.mp unused)
  rw [← isSome_typeNamed?_iff] at unnamed
  simp only [not_or, not_exists, Option.not_isSome_iff_eq_none,
    ← Option.eq_none_iff_forall_ne_some] at unnamed
  obtain ⟨typeless, unmodified, unswitched⟩ := unnamed
  have types : typesOf (before ++ entry :: after) = typesOf (before ++ after) := by
    rw [typesOf_eq_filterMap, typesOf_eq_filterMap, List.filterMap_append,
      List.filterMap_cons_none typeless, List.filterMap_append]
  rw [ofMap, resolveType, types, resolveModifiers, resolveModifiersFrom_of_none unmodified,
    resolveParameters, resolveParametersFrom_of_none unswitched]
  rfl

/-! ## Entries that are used -/

/-- Without the entry that names the type there is no field. -/
theorem ofMap_ne_ok_of_namesType (made : ofMap field (before ++ entry :: after) = .ok whole)
    (names : NamesType entry) : ofMap field (before ++ after) ≠ .ok rest := by
  intro left
  have one := (exists_ofMap_iff.mp ⟨whole, made⟩).oneType
  have other := (exists_ofMap_iff.mp ⟨rest, left⟩).oneType
  rw [List.countP_append, List.countP_cons_of_pos (by simpa using names)] at one
  rw [List.countP_append] at other
  omega

/-- A modifier is set as long as its entry is there, and not without it. -/
theorem sets_of_key (made : ofMap field (before ++ entry :: after) = .ok whole)
    (left : ofMap field (before ++ after) = .ok rest) (key : entry.1 = .name modifier.key) :
    whole.modifiers.Sets modifier ∧ ¬rest.modifiers.Sets modifier := by
  obtain ⟨-, -, wholeModifiers, -⟩ := parts_of_ofMap made
  obtain ⟨-, -, restModifiers, -⟩ := parts_of_ofMap left
  obtain ⟨-, ⟨once, admissible⟩, -⟩ := exists_ofMap_iff.mp ⟨whole, made⟩
  constructor
  · have member : (.name modifier.key, entry.2) ∈ before ++ entry :: after := by
      rw [← key]
      exact List.mem_append_right before List.mem_cons_self
    rw [wholeModifiers]
    exact sets_ofGiven ((get?_eq_some_iff_of_once (once modifier)).mpr member)
      (admissible modifier entry.2 member)
  · have count := once modifier
    rw [List.countP_append, List.countP_cons_of_pos (by simpa using key)] at count
    have absent : (before ++ after).countP (fun other => other.1 = .name modifier.key) = 0 := by
      rw [List.countP_append]
      omega
    rw [countP_key, List.count_eq_zero] at absent
    rw [restModifiers]
    exact not_sets_ofGiven (get?_eq_none_of_not_mem absent)

/-- A field has as many parameters as entries give one. -/
theorem length_parameters (made : ofMap field map = .ok whole) :
    whole.parameters.length = map.countP fun entry => (parameterOf? entry).isSome := by
  obtain ⟨type, modifiers, parameters, -, -, switched, rfl⟩ := ofMap_eq_ok_iff.mp made
  rw [← List.length_filterMap_eq_countP, ← names_of_resolveParameters switched, List.length_map]

/-- Without a used entry the option declares no field or another one. -/
theorem not_same_of_used (made : ofMap field (before ++ entry :: after) = .ok whole)
    (left : ofMap field (before ++ after) = .ok rest) (used : isUsed entry = true) :
    ¬rest.Same whole := by
  intro same
  rcases isUsed_iff.mp used with names | ⟨modifier, keyed⟩ | ⟨parameter, keyed⟩
  · exact ofMap_ne_ok_of_namesType made names left
  · obtain ⟨sets, unset⟩ := sets_of_key made left (modifierOf?_eq_some_iff.mp keyed)
    exact unset (same.modifiers.sets sets)
  · have lengths := congrArg List.length same.parameters
    rw [length_parameters made, length_parameters left, List.countP_append, List.countP_append,
      List.countP_cons_of_pos (by rw [keyed, Option.isSome_some])] at lengths
    omega

/-! ## Warnings -/

/-- Without the entry at a position the option declares the same field. -/
def WithoutEffect (record field : String) (map : OptionMap) (position : Nat) (resolved : Field) :
    Prop :=
  ∃ other, resolve record field (.options (map.eraseIdx position)) = .ok other ∧
    other.Same resolved

/-- An entry is without effect exactly when the resolver takes it for unused. -/
theorem withoutEffect_iff (resolves : resolve record field (.options map) = .ok whole)
    (position : Fin map.length) :
    WithoutEffect record field map position whole ↔ isUsed map[position] = false := by
  have split : map = map.take position ++ map[position] :: map.drop (position + 1) := by
    rw [Fin.getElem_fin, List.getElem_cons_drop, List.take_append_drop]
  have made : ofMap field (map.take position ++ map[position] :: map.drop (position + 1)) =
      .ok whole := split ▸ resolve_eq_ok_iff.mp resolves
  unfold WithoutEffect
  simp only [resolve_eq_ok_iff, Normalized.entries, List.eraseIdx_eq_take_drop_succ]
  constructor
  · rintro ⟨other, left, same⟩
    rw [← Bool.not_eq_true]
    exact fun used => not_same_of_used made left used same
  · intro unused
    rw [ofMap_of_unused unused] at made
    exact ⟨whole, made, .refl whole⟩

/-- The warnings of a resolution are about the unused entries, in their order. -/
theorem warnings_resolutionEvents (option : Normalized) (resolved : Field) :
    (resolutionEvents record option resolved).filter (·.level = .warn) =
      (unusedEntries option.entries).map fun entry =>
        .optionIgnored record resolved.declaredName entry.1 entry.2 := by
  rw [resolutionEvents, List.filter_append, List.filter_map]
  simp [Event.level, Function.comp_def]

/-- **Warned means without effect.** Resolving an option warns of some of its entries, in their
order and once of each. They are those without which the option declares the same field. -/
theorem warnings_exact (record field : String) (map : OptionMap) (resolved : Field)
    (resolves : resolve record field (.options map) = .ok resolved) :
    ∃ warned : List (Fin map.length), warned.Pairwise (· < ·) ∧
      (∀ position, position ∈ warned ↔ WithoutEffect record field map position resolved) ∧
      (resolveLogged record field (.options map)).events.filter (·.level = .warn) =
        warned.map fun position =>
          .optionIgnored record field map[position].1 map[position].2 := by
  refine ⟨(List.finRange map.length).filter fun position => !isUsed map[position],
    (List.pairwise_lt_finRange _).filter _, fun position => ?_, ?_⟩
  · rw [withoutEffect_iff resolves, List.mem_filter, Bool.not_eq_true']
    exact and_iff_right (List.mem_finRange position)
  · have entries : (List.finRange map.length).map (fun position => map[position]) = map :=
      List.map_getElem_finRange map
    have unused : unusedEntries map =
        ((List.finRange map.length).filter fun position => !isUsed map[position]).map
          fun position => map[position] := by
      rw [unusedEntries]
      conv_lhs => rw [← entries]
      rw [List.filter_map]
      rfl
    rw [resolveLogged, resolves]
    dsimp only
    rw [warnings_resolutionEvents, declaredName_of_resolve resolves, Normalized.entries, unused,
      List.map_map]
    rfl

/-- A title with a word and a named entry that mean nothing, and a modifier without a value. -/
def titleMap : OptionMap :=
  [(.index 0, .text "fancy"), (.index 1, .text "string"), (.name "mode", .text "loud"),
    (.index 3, .text "searchable"), (.index 4, .text "locale"), (.name "name", .text "heading")]

def titleField : Field where
  declaredName := "title"
  type := .string
  modifiers := { Modifiers.default "title" with name := some "heading" }
  parameters := [(.searchable, true)]

/-- The title warns of its two words without meaning and of its modifier without a value, and not of
its last entry. -/
theorem warnings_exact_title :
    resolve "Post" "title" (.options titleMap) = .ok titleField ∧
      ¬WithoutEffect "Post" "title" titleMap 5 titleField ∧
      ∃ warned : List (Fin titleMap.length),
        (∀ position ∈ warned, WithoutEffect "Post" "title" titleMap position titleField) ∧
        (warned.map fun position =>
            Event.optionIgnored "Post" "title" titleMap[position].1 titleMap[position].2) =
          [.optionIgnored "Post" "title" (.index 0) (.text "fancy"),
            .optionIgnored "Post" "title" (.name "mode") (.text "loud"),
            .optionIgnored "Post" "title" (.index 4) (.text "locale")] := by
  have resolves : resolve "Post" "title" (.options titleMap) = .ok titleField := rfl
  obtain ⟨warned, -, exact, warnings⟩ := warnings_exact "Post" "title" titleMap _ resolves
  refine ⟨resolves, fun effectless => ?_, warned, fun position => (exact position).mp,
    warnings.symm⟩
  -- The name would have to be among the three entries that the log is warned of.
  have warns := List.mem_map_of_mem (f := fun position : Fin titleMap.length =>
    Event.optionIgnored "Post" "title" titleMap[position].1 titleMap[position].2)
    ((exact ⟨5, by decide⟩).mpr effectless)
  rw [← warnings] at warns
  have listed : Event.optionIgnored "Post" "title" (.name "name") (.text "heading") ∈
      [Event.optionIgnored "Post" "title" (.index 0) (.text "fancy"),
        .optionIgnored "Post" "title" (.name "mode") (.text "loud"),
        .optionIgnored "Post" "title" (.index 4) (.text "locale")] := warns
  simp at listed

end Field

end SearchCollection
