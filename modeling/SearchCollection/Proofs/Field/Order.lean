import SearchCollection.Proofs.Field.Descriptor
import SearchCollection.Proofs.Keys

/-! # The order of the entries of an option

Entries can stand in any order, and tokens without a name at any positions
(`OptionMap.Reordered`): what each pass looks at in an entry does not depend on
where it stands, and an option is only accepted if nothing is given twice, so no
entry can hide another. Reordered options declare fields that differ in the order
of their parameters only (`Field.resolve_reordered`). Where an option is refused,
the order decides which fault is met first, but for the number of types.
-/

namespace SearchCollection

namespace OptionMap

/-- The entry with its position, if it has one, forgotten: it is taken to stand first. -/
def unplaced : OptionKey × OptionValue → OptionKey × OptionValue
  | (.index _, value) => (.index 0, value)
  | (.name text, value) => (.name text, value)

/-- The same entries in another order, tokens without a name at other positions. -/
def Reordered (first second : OptionMap) : Prop :=
  (first.map unplaced).Perm (second.map unplaced)

variable {first second : OptionMap}

theorem Reordered.symm (reordered : first.Reordered second) : second.Reordered first :=
  List.Perm.symm reordered

/-- What is read from the entries one by one, without regard to positions, is read in another
order. -/
theorem Reordered.filterMap {α : Type} (reordered : first.Reordered second)
    {read : OptionKey × OptionValue → Option α}
    (unplacing : ∀ entry, read (unplaced entry) = read entry) :
    (first.filterMap read).Perm (second.filterMap read) := by
  have kept (map : OptionMap) : (map.map unplaced).filterMap read = map.filterMap read := by
    rw [List.filterMap_map]
    exact List.filterMap_congr fun entry _ => unplacing entry
  rw [← kept first, ← kept second]
  exact List.Perm.filterMap read reordered

/-- Named entries have no position to forget. -/
theorem mem_map_unplaced_iff {map : OptionMap} {name : String} {value : OptionValue} :
    (.name name, value) ∈ map.map unplaced ↔ (.name name, value) ∈ map := by
  constructor
  · intro member
    obtain ⟨⟨key, given⟩, among, same⟩ := List.mem_map.mp member
    cases key with
    | index position => cases same
    | name text =>
        rw [unplaced] at same
        exact same ▸ among
  · intro member
    exact List.mem_map.mpr ⟨_, member, rfl⟩

/-- The entries with a name are the same. -/
theorem Reordered.mem_iff (reordered : first.Reordered second) {name : String}
    {value : OptionValue} : (.name name, value) ∈ first ↔ (.name name, value) ∈ second := by
  rw [← mem_map_unplaced_iff, List.Perm.mem_iff reordered, mem_map_unplaced_iff]

end OptionMap

namespace Field

open OptionMap (unplaced)

variable {record name : String} {first second map : OptionMap} {field other : Field}

/-! ## What does not depend on positions -/

theorem typeNamed?_unplaced (entry : OptionKey × OptionValue) :
    typeNamed? (unplaced entry) = typeNamed? entry := by
  obtain ⟨key, value⟩ := entry
  cases key <;> rfl

theorem modifierOf?_unplaced (entry : OptionKey × OptionValue) :
    modifierOf? (unplaced entry) = modifierOf? entry := by
  obtain ⟨key, value⟩ := entry
  cases key <;> rfl

theorem parameterOf?_unplaced (entry : OptionKey × OptionValue) :
    parameterOf? (unplaced entry) = parameterOf? entry := by
  obtain ⟨key, value⟩ := entry
  cases key <;> rfl

/-- What an entry switches does not depend on its position. -/
theorem switchGiven?_unplaced (entry : OptionKey × OptionValue) :
    switchGiven? (unplaced entry) = switchGiven? entry := by
  obtain ⟨key, value⟩ := entry
  cases key with
  | index position => cases value <;> rfl
  | name text => rfl

/-! ## What does not depend on the order -/

/-- Reordered entries name as many types. -/
theorem countP_namesType_of_reordered (reordered : first.Reordered second) :
    first.countP NamesType = second.countP NamesType := by
  rw [← length_typesOf, ← length_typesOf]
  exact (reordered.filterMap typeNamed?_unplaced).length_eq

/-- Whether entries declare a field does not depend on their order. -/
theorem Accepts.of_reordered (accepts : Accepts first) (reordered : first.Reordered second) :
    Accepts second := by
  obtain ⟨oneType, modifiers, parameters⟩ := accepts
  have namesType := countP_namesType_of_reordered reordered
  have modifiersGiven := reordered.filterMap modifierOf?_unplaced
  have parametersGiven := reordered.filterMap parameterOf?_unplaced
  refine ⟨namesType.symm.trans oneType, ⟨?_, ?_⟩, ⟨?_, ?_⟩⟩
  · intro modifier
    rw [countP_key, ← modifiersGiven.count_eq, ← countP_key]
    exact modifiers.once modifier
  · intro modifier value member
    exact modifiers.admissible modifier value (reordered.mem_iff.mpr member)
  · intro parameter
    rw [countP_gives, ← parametersGiven.count_eq, ← countP_gives]
    exact parameters.once parameter
  · intro parameter value member
    exact parameters.boolean parameter value (reordered.mem_iff.mpr member)

/-- Of entries that are accepted, the one with the name of a modifier is found in any order. -/
theorem Accepts.get?_eq_of_reordered (accepts : Accepts first)
    (reordered : first.Reordered second) (modifier : Modifier) :
    first.get? modifier.key = second.get? modifier.key := by
  apply Option.ext
  intro value
  rw [accepts.get?_eq_some_iff, (accepts.of_reordered reordered).get?_eq_some_iff,
    reordered.mem_iff]

/-- The fields differ in the order of their parameters only. -/
structure Reordered (field other : Field) : Prop where
  declaredName : field.declaredName = other.declaredName
  type : field.type = other.type
  modifiers : field.modifiers = other.modifiers
  parameters : field.parameters.Perm other.parameters

/-- Reordered entries declare fields that differ in the order of their parameters only. -/
theorem reordered_of_ofMap (reordered : first.Reordered second)
    (made : ofMap name first = .ok field) (remade : ofMap name second = .ok other) :
    field.Reordered other := by
  have accepts : Accepts first := exists_ofMap_iff.mp ⟨field, made⟩
  obtain ⟨declared, named, modifiers, parameters⟩ := parts_of_ofMap made
  obtain ⟨redeclared, -, otherModifiers, otherParameters⟩ := parts_of_ofMap remade
  refine ⟨declared.trans redeclared.symm, ?_, ?_, ?_⟩
  · have types : (typesOf first).Perm (typesOf second) :=
      reordered.filterMap typeNamed?_unplaced
    rw [← mem_typesOf_iff, types.mem_iff, mem_typesOf_iff] at named
    exact ((type_eq_iff remade).mpr named).symm
  · rw [modifiers, otherModifiers]
    congr 1
    funext modifier
    exact accepts.get?_eq_of_reordered reordered modifier
  · rw [parameters, otherParameters]
    exact reordered.filterMap switchGiven?_unplaced

/-- The descriptors of such fields have the same members in some order. -/
theorem Reordered.members_perm (reordered : field.Reordered other) :
    field.descriptor.members.Perm other.descriptor.members := by
  obtain ⟨declaredName, type, modifiers, parameters⟩ := reordered
  have names : field.outputName = other.outputName := by
    rw [outputName, outputName, modifiers, declaredName]
  simp only [Descriptor.members, descriptor, names, type, modifiers]
  exact ((parameters.filter _).map _).append_left _

/-- Where no parameter is given twice, its value does not depend on the order. -/
theorem Reordered.parameter?_eq (reordered : field.Reordered other)
    (once : (field.parameters.map Prod.fst).Nodup) (parameter : Parameter) :
    field.parameter? parameter = other.parameter? parameter :=
  congrArg (Option.map Prod.snd) (find?_key_eq_of_perm reordered.parameters once parameter)

/-! ## What is refused -/

/-- An option is refused for the number of its types whatever else is wrong with it. -/
theorem ofMap_eq_notOneType_iff {count : Nat} :
    ofMap name map = .error (.notOneType name count) ↔
      map.countP NamesType ≠ 1 ∧ count = map.countP NamesType := by
  rw [ofMap_eq_error_iff_refuses]
  constructor
  · intro refuses
    cases refuses with
    | type uncertain => exact ⟨uncertain, rfl⟩
    | modifier oneType fault =>
        obtain ⟨_, modifier, _, _, -, -, ⟨-, same⟩ | ⟨-, -, same⟩⟩ := fault
        · cases same
        · cases modifier <;> cases same
    | parameter oneType fine fault =>
        obtain ⟨_, _, _, _, -, -, -, ⟨-, -, same⟩ | ⟨-, -, same⟩⟩ := fault <;> cases same
  · rintro ⟨uncertain, rfl⟩
    exact .type uncertain

/-! ## Both together -/

/-- **The order of tokens.** Two options with the same entries in different orders are both
accepted or both refused. They declare the same field but for the order of its parameters, which
is searchable under both or under none; its descriptor has the same members, and in key order they
are one JSON object. If one option is refused for the number of its types, so is the other, with
the same number. -/
theorem resolve_reordered (record name : String) (first second : OptionMap)
    (reordered : first.Reordered second) :
    ((∃ field, resolve record name (.options first) = .ok field) ↔
      ∃ field, resolve record name (.options second) = .ok field) ∧
    (∀ field other, resolve record name (.options first) = .ok field →
      resolve record name (.options second) = .ok other →
      field.Reordered other ∧
      field.isSearchable = other.isSearchable ∧
      field.descriptor.members.Perm other.descriptor.members ∧
      field.descriptor.toJson.sorted = other.descriptor.toJson.sorted) ∧
    ∀ count, resolve record name (.options first) =
        .error (.declaration record (.notOneType name count)) ↔
      resolve record name (.options second) =
        .error (.declaration record (.notOneType name count)) := by
  simp only [resolve_eq_ok_iff, Normalized.entries]
  refine ⟨?_, ?_, ?_⟩
  · rw [exists_ofMap_iff, exists_ofMap_iff]
    constructor
    · intro accepts
      exact accepts.of_reordered reordered
    · intro accepts
      exact accepts.of_reordered reordered.symm
  · intro field other made remade
    have fields : field.Reordered other := reordered_of_ofMap reordered made remade
    have members := fields.members_perm
    have keys : (field.descriptor.members.map Prod.fst).Nodup := by
      cases keysOnce_descriptor_of_ofMap made with
      | object nodup _ => exact nodup
    refine ⟨fields, ?_, members, ?_⟩
    · rw [isSearchable, isSearchable,
        fields.parameter?_eq (nodup_parameters_of_ofMap made) .searchable]
    · exact Json.sorted_object_eq_of_perm members keys
  · intro count
    have refused (map : OptionMap) :
        resolve record name (.options map) =
            .error (.declaration record (.notOneType name count)) ↔
          map.countP NamesType ≠ 1 ∧ count = map.countP NamesType := by
      rw [← ofMap_eq_notOneType_iff, resolve_eq_error_iff]
      constructor
      · rintro ⟨cause, same, failed⟩
        cases same
        exact failed
      · intro failed
        exact ⟨_, rfl, failed⟩
    rw [refused, refused, countP_namesType_of_reordered reordered]

/-- A headline that is a text, searched and not sorted by, under another name. -/
def headlineForwards : OptionMap :=
  [(.index 0, .text "string"), (.name "sort", .text "off"), (.index 2, .text "searchable"),
    (.name "name", .text "title"), (.index 4, .text "facet")]

/-- The entries of the headline backwards, its tokens counted anew. -/
def headlineBackwards : OptionMap :=
  [(.index 7, .text "facet"), (.name "name", .text "title"), (.index 3, .text "searchable"),
    (.name "sort", .text "off"), (.index 0, .text "string")]

/-- The headline is declared from either end, with its parameters in either order and one sorted
descriptor. -/
theorem resolve_reordered_headline :
    headlineForwards.Reordered headlineBackwards ∧
      ∃ field other, resolve "Post" "headline" (.options headlineForwards) = .ok field ∧
        resolve "Post" "headline" (.options headlineBackwards) = .ok other ∧
        field.parameters = [(.sort, false), (.searchable, true), (.facet, true)] ∧
        other.parameters = [(.facet, true), (.searchable, true), (.sort, false)] ∧
        field.descriptor.toJson.sorted = other.descriptor.toJson.sorted := by
  have reordered : headlineForwards.Reordered headlineBackwards :=
    (List.reverse_perm (headlineForwards.map OptionMap.unplaced)).symm
  obtain ⟨-, same, -⟩ := resolve_reordered "Post" "headline" _ _ reordered
  have forwards : resolve "Post" "headline" (.options headlineForwards) =
      .ok ⟨"headline", .string, { Modifiers.default "headline" with name := some "title" },
        [(.sort, false), (.searchable, true), (.facet, true)]⟩ := rfl
  have backwards : resolve "Post" "headline" (.options headlineBackwards) =
      .ok ⟨"headline", .string, { Modifiers.default "headline" with name := some "title" },
        [(.facet, true), (.searchable, true), (.sort, false)]⟩ := rfl
  obtain ⟨-, -, -, json⟩ := same _ _ forwards backwards
  exact ⟨reordered, _, _, forwards, backwards, rfl, rfl, json⟩

end Field

end SearchCollection
