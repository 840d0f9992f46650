import SearchCollection.Proofs.Field.Acceptance
import SearchCollection.Proofs.Json.Reordered

/-! # What is told of a field

The members of a descriptor are written one after the other without a look at their keys. No key
comes twice all the same: parameters are given once (`Field.nodup_parameters_of_ofMap`) and have
other names than the rest of a descriptor. A descriptor tells of its field what the entries of the
option declare, and nothing else (`Field.Describes`, `Field.describes_of_ofMap`).
-/

namespace SearchCollection

namespace Json

/-- The tree is a text, a Boolean or a list of texts. -/
inductive Simple : Json → Prop where
  | string (text : String) : Simple (.string text)
  | bool (value : Bool) : Simple (.bool value)
  | strings (texts : List String) : Simple (.ofStrings texts)

variable {json : Json}

/-- A simple tree is made of texts, Booleans, lists and objects. -/
theorem Simple.plain (simple : json.Simple) : json.Plain := by
  cases simple with
  | string text => exact .string text
  | bool value => exact .bool value
  | strings texts =>
      refine .array fun item member => ?_
      obtain ⟨text, -, rfl⟩ := List.mem_map.mp member
      exact .string text

/-- A simple tree has no object with a key twice. -/
theorem Simple.keysOnce (simple : json.Simple) : json.KeysOnce := by
  cases simple with
  | string text => exact .string text
  | bool value => exact .bool value
  | strings texts =>
      refine .array fun item member => ?_
      obtain ⟨text, -, rfl⟩ := List.mem_map.mp member
      exact .string text

end Json

namespace Field

variable {record name : String} {option : Normalized} {map : OptionMap} {field : Field}
  {key : String} {value : Json}

namespace Descriptor

variable (descriptor : Descriptor)

/-- A descriptor tells the name and the type, the modifiers that are set, and each parameter. -/
theorem mem_members_iff : (key, value) ∈ descriptor.members ↔
    (key = "name" ∧ value = .string descriptor.name) ∨
    (key = "type" ∧ value = .string descriptor.type.name) ∨
    (∃ locale, descriptor.locale = some locale ∧ key = "locale" ∧ value = .string locale) ∨
    (∃ texts, descriptor.tokenSeparators = some texts ∧
      key = "token_separators" ∧ value = .ofStrings texts) ∨
    (∃ texts, descriptor.symbolsToIndex = some texts ∧
      key = "symbols_to_index" ∧ value = .ofStrings texts) ∨
    ∃ entry ∈ descriptor.parameters, key = entry.1.name ∧ value = .bool entry.2 := by
  simp only [members, List.mem_append, List.mem_cons, List.not_mem_nil, or_false,
    Option.mem_toList, Option.map_eq_some_iff, List.mem_map, Prod.mk.injEq, or_assoc,
    eq_comm (b := key), eq_comm (b := value)]

/-- All that a descriptor tells of a field is simple. -/
theorem simple_of_mem_members {member : String × Json} (among : member ∈ descriptor.members) :
    member.2.Simple := by
  obtain ⟨key, value⟩ := member
  obtain ⟨rfl, rfl⟩ | ⟨rfl, rfl⟩ | ⟨locale, -, rfl, rfl⟩ | ⟨texts, -, rfl, rfl⟩ |
    ⟨texts, -, rfl, rfl⟩ | ⟨entry, -, rfl, rfl⟩ := descriptor.mem_members_iff.mp among
  · exact .string _
  · exact .string _
  · exact .string locale
  · exact .strings texts
  · exact .strings texts
  · exact .bool entry.2

/-- The keys that are no names of parameters. -/
def ownKeys : List String :=
  ["name", "type", "locale", "token_separators", "symbols_to_index"]

/-- A descriptor has its own keys first and then the names of the parameters. -/
theorem exists_keys_members : ∃ own : List String, own.Sublist ownKeys ∧
    descriptor.members.map Prod.fst =
      own ++ descriptor.parameters.map fun entry => entry.1.name := by
  have optional {α : Type} (given : Option α) (key : String) (tell : α → Json) :
      ((given.map fun value => (key, tell value)).toList.map Prod.fst).Sublist [key] := by
    cases given with
    | none => exact List.nil_sublist _
    | some value => exact List.Sublist.refl _
  refine ⟨_, ?_, by rw [members, List.map_append, List.map_map]; rfl⟩
  simp only [List.map_append]
  exact (((List.Sublist.refl ["name", "type"]).append (optional _ "locale" _)).append
    (optional _ "token_separators" _)).append (optional _ "symbols_to_index" _)

/-- A descriptor has no key twice when no parameter is switched twice. -/
theorem nodup_keys_members (once : (descriptor.parameters.map Prod.fst).Nodup) :
    (descriptor.members.map Prod.fst).Nodup := by
  obtain ⟨own, sublist, keys⟩ := descriptor.exists_keys_members
  have names : (descriptor.parameters.map fun entry => entry.1.name).Nodup := by
    have mapped := once.map Parameter.name_injective
    rwa [List.map_map] at mapped
  have ownNodup : own.Nodup := List.Nodup.sublist sublist (by decide)
  rw [keys, List.nodup_append]
  refine ⟨ownNodup, names, ?_⟩
  rintro key ownMember _ parameterMember rfl
  obtain ⟨⟨parameter, switch⟩, -, rfl⟩ := List.mem_map.mp parameterMember
  have foreign : parameter.name ∉ ownKeys := by cases parameter <;> decide
  exact foreign (sublist.subset ownMember)

end Descriptor

/-- What is told of a field that is declared under a name by the entries of an option. -/
inductive Told (declared : String) (map : OptionMap) : String → Json → Prop where
  | name {output : String} (given : (.name "name", .text output) ∈ map) :
      Told declared map "name" (.string output)
  | declaredName (absent : ∀ value, (.name "name", value) ∉ map) :
      Told declared map "name" (.string declared)
  | type {entry : OptionKey × OptionValue} {type : FieldType} (member : entry ∈ map)
      (names : NamesType entry) (text : entry.2 = .text type.name) :
      Told declared map "type" (.string type.name)
  | locale {text : String} (given : (.name "locale", .text text) ∈ map) :
      Told declared map "locale" (.string text)
  | tokenSeparators {value : OptionValue} {texts : List String}
      (given : (.name "token_separators", value) ∈ map)
      (characters : value.characters? = some texts) :
      Told declared map "token_separators" (.ofStrings texts)
  | symbolsToIndex {value : OptionValue} {texts : List String}
      (given : (.name "symbols_to_index", value) ∈ map)
      (characters : value.characters? = some texts) :
      Told declared map "symbols_to_index" (.ofStrings texts)
  | switch {parameter : Parameter} {value : OptionValue} {switch : Bool}
      (given : (.name parameter.name, value) ∈ map) (boolean : value.boolean? = some switch)
      (emitted : parameter ≠ .searchable) : Told declared map parameter.name (.bool switch)
  | token {parameter : Parameter} {position : Nat}
      (given : (.index position, .text parameter.name) ∈ map)
      (emitted : parameter ≠ .searchable) : Told declared map parameter.name (.bool true)

/-- An object tells of a field what the entries of its option declare. -/
structure Describes (declared : String) (map : OptionMap) (members : List (String × Json)) :
    Prop where
  told : ∀ key value, (key, value) ∈ members ↔ Told declared map key value
  keys : ∀ key, key ∈ members.map Prod.fst ↔
    key = "name" ∨ key = "type" ∨
    (∃ modifier ∈ [Modifier.locale, .tokenSeparators, .symbolsToIndex],
      key = modifier.key ∧ ∃ value, (.name modifier.key, value) ∈ map) ∨
    ∃ parameter ≠ Parameter.searchable,
      key = parameter.name ∧ ∃ entry ∈ map, Gives parameter entry

/-- A modifier has the value of the one entry that gives it. -/
theorem Accepts.get?_eq_some_iff (accepts : Accepts map) (modifier : Modifier)
    {value : OptionValue} :
    map.get? modifier.key = some value ↔ (.name modifier.key, value) ∈ map :=
  get?_eq_some_iff_of_once (accepts.modifiers.once modifier)

/-- What a modifier's value is read as comes from the one entry that gives it. -/
theorem Accepts.read_eq_some_iff {α : Type} {result : α} (accepts : Accepts map)
    (modifier : Modifier) (read : OptionValue → Option α) :
    (map.get? modifier.key).bind read = some result ↔
      ∃ value, (.name modifier.key, value) ∈ map ∧ read value = some result := by
  simp only [Option.bind_eq_some_iff, accepts.get?_eq_some_iff]

/-- Every value that one of the three modifiers takes is told of. -/
theorem Accepts.exists_told (accepts : Accepts map) (declared : String) {modifier : Modifier}
    (among : modifier ∈ [Modifier.locale, .tokenSeparators, .symbolsToIndex])
    {given : OptionValue} (member : (.name modifier.key, given) ∈ map) :
    ∃ value, Told declared map modifier.key value := by
  have admitted : modifier.Admits given := accepts.modifiers.admissible modifier given member
  simp only [List.mem_cons, List.not_mem_nil, or_false] at among
  obtain rfl | rfl | rfl := among
  · obtain ⟨text, rfl⟩ := admitted
    exact ⟨_, .locale member⟩
  · obtain ⟨texts, characters⟩ := admitted
    exact ⟨_, .tokenSeparators member characters⟩
  · obtain ⟨texts, characters⟩ := admitted
    exact ⟨_, .symbolsToIndex member characters⟩

/-- Every parameter is emitted but the one for searching. -/
theorem isEmitted_iff {parameter : Parameter} :
    parameter.isEmitted = true ↔ parameter ≠ .searchable := by
  cases parameter <;> decide

/-- A parameter is switched by a Boolean under its name, or turned on by a token. -/
theorem switchGiven?_eq_some_iff {entry : OptionKey × OptionValue} {parameter : Parameter}
    {switch : Bool} : switchGiven? entry = some (parameter, switch) ↔
      entry.1 = .name parameter.name ∧ entry.2.boolean? = some switch ∨
      (∃ position, entry = (.index position, .text parameter.name)) ∧ switch = true := by
  obtain ⟨key, value⟩ := entry
  cases key with
  | name name =>
      simp only [switchGiven?, Option.bind_eq_some_iff, Option.map_eq_some_iff, Prod.mk.injEq,
        Parameter.ofName?_eq_some_iff, OptionKey.name.injEq, reduceCtorEq, false_and,
        exists_false, or_false]
      constructor
      · rintro ⟨found, rfl, given, boolean, rfl, rfl⟩
        exact ⟨rfl, boolean⟩
      · rintro ⟨rfl, boolean⟩
        exact ⟨parameter, rfl, switch, boolean, rfl, rfl⟩
  | index position =>
      cases value with
      | text word =>
          simp only [switchGiven?, Option.map_eq_some_iff, Parameter.ofName?_eq_some_iff,
            Prod.mk.injEq, reduceCtorEq, false_and, false_or, OptionKey.index.injEq,
            OptionValue.text.injEq, exists_and_right, exists_eq', true_and]
          constructor
          · rintro ⟨found, rfl, rfl, rfl⟩
            exact ⟨rfl, rfl⟩
          · rintro ⟨rfl, rfl⟩
            exact ⟨parameter, rfl, rfl, rfl⟩
      | _ => simp [switchGiven?]

section Described

variable (made : ofMap name map = .ok field)
include made

/-- The output name is the new name that is given, or the declared one when none is. -/
theorem outputName_eq_iff {output : String} : field.outputName = output ↔
    (.name "name", .text output) ∈ map ∨
      (∀ value, (.name "name", value) ∉ map) ∧ output = name := by
  have accepts : Accepts map := exists_ofMap_iff.mp ⟨field, made⟩
  obtain ⟨declared, -, modifiers, -⟩ := parts_of_ofMap made
  have given (value : OptionValue) : map.get? "name" = some value ↔ (.name "name", value) ∈ map :=
    accepts.get?_eq_some_iff .name
  simp only [← given, outputName, modifiers, declared, ofGiven, Modifier.key]
  cases found : map.get? "name" with
  | none => simp [eq_comm]
  | some value =>
      obtain ⟨text, rfl, -⟩ := accepts.modifiers.admissible .name value ((given value).mp found)
      simp [OptionValue.text?]

/-- The type is the one that an entry names. -/
theorem type_eq_iff {type : FieldType} : field.type = type ↔
    ∃ entry ∈ map, NamesType entry ∧ entry.2 = .text type.name := by
  obtain ⟨found, modifiers, parameters, typed, -, -, rfl⟩ := ofMap_eq_ok_iff.mp made
  have oneType := (resolveType_eq_ok_iff.mp typed).1
  have named : resolveType name map = .ok type ↔
      ∃ entry ∈ map, NamesType entry ∧ entry.2 = .text type.name := by
    rw [resolveType_eq_ok_iff, and_iff_right oneType]
  rw [← named, typed, Except.ok.injEq]

/-- The locale is the text that is given for it. -/
theorem locale_eq_some_iff {text : String} :
    field.modifiers.locale = some text ↔ (.name "locale", .text text) ∈ map := by
  have accepts : Accepts map := exists_ofMap_iff.mp ⟨field, made⟩
  obtain ⟨-, -, modifiers, -⟩ := parts_of_ofMap made
  rw [modifiers]
  apply (accepts.read_eq_some_iff .locale OptionValue.text?).trans
  simp only [OptionValue.text?_eq_some_iff, exists_eq_right, Modifier.key]

/-- The token separators are the characters given for them. -/
theorem tokenSeparators_eq_some_iff {texts : List String} :
    field.modifiers.tokenSeparators = some texts ↔
      ∃ value, (.name "token_separators", value) ∈ map ∧ value.characters? = some texts := by
  have accepts : Accepts map := exists_ofMap_iff.mp ⟨field, made⟩
  obtain ⟨-, -, modifiers, -⟩ := parts_of_ofMap made
  rw [modifiers]
  exact accepts.read_eq_some_iff .tokenSeparators OptionValue.characters?

/-- The symbols to index are the characters given for them. -/
theorem symbolsToIndex_eq_some_iff {texts : List String} :
    field.modifiers.symbolsToIndex = some texts ↔
      ∃ value, (.name "symbols_to_index", value) ∈ map ∧ value.characters? = some texts := by
  have accepts : Accepts map := exists_ofMap_iff.mp ⟨field, made⟩
  obtain ⟨-, -, modifiers, -⟩ := parts_of_ofMap made
  rw [modifiers]
  exact accepts.read_eq_some_iff .symbolsToIndex OptionValue.characters?

/-- The parameters are those switched by an entry, under their names or as tokens. -/
theorem mem_parameters_iff {parameter : Parameter} {switch : Bool} :
    (parameter, switch) ∈ field.parameters ↔
      (∃ value, (.name parameter.name, value) ∈ map ∧ value.boolean? = some switch) ∨
      (∃ position, (.index position, .text parameter.name) ∈ map) ∧ switch = true := by
  obtain ⟨-, -, -, parameters⟩ := parts_of_ofMap made
  rw [parameters, List.mem_filterMap]
  simp only [switchGiven?_eq_some_iff]
  constructor
  · rintro ⟨entry, member, ⟨named, boolean⟩ | ⟨⟨position, rfl⟩, rfl⟩⟩
    · exact .inl ⟨entry.2, named ▸ member, boolean⟩
    · exact .inr ⟨⟨position, member⟩, rfl⟩
  · rintro (⟨value, member, boolean⟩ | ⟨⟨position, member⟩, rfl⟩)
    · exact ⟨_, member, .inl ⟨rfl, boolean⟩⟩
    · exact ⟨_, member, .inr ⟨⟨position, rfl⟩, rfl⟩⟩

/-- The members of a descriptor are what the entries declare. -/
theorem mem_members_descriptor_iff :
    (key, value) ∈ field.descriptor.members ↔ Told name map key value := by
  rw [Descriptor.mem_members_iff]
  simp only [descriptor, List.mem_filter, isEmitted_iff]
  constructor
  · rintro (⟨rfl, rfl⟩ | ⟨rfl, rfl⟩ | ⟨text, told, rfl, rfl⟩ | ⟨texts, told, rfl, rfl⟩ |
      ⟨texts, told, rfl, rfl⟩ | ⟨⟨parameter, switch⟩, ⟨told, emitted⟩, rfl, rfl⟩)
    · obtain given | ⟨absent, same⟩ := (outputName_eq_iff made).mp rfl
      · exact .name given
      · exact same ▸ .declaredName absent
    · obtain ⟨entry, member, names, text⟩ := (type_eq_iff made).mp rfl
      exact .type member names text
    · exact .locale ((locale_eq_some_iff made).mp told)
    · obtain ⟨value, given, characters⟩ := (tokenSeparators_eq_some_iff made).mp told
      exact .tokenSeparators given characters
    · obtain ⟨value, given, characters⟩ := (symbolsToIndex_eq_some_iff made).mp told
      exact .symbolsToIndex given characters
    · obtain ⟨value, given, boolean⟩ | ⟨⟨position, given⟩, rfl⟩ := (mem_parameters_iff made).mp told
      · exact .switch given boolean emitted
      · exact .token given emitted
  · intro told
    cases told with
    | name given => exact .inl ⟨rfl, by rw [(outputName_eq_iff made).mpr (.inl given)]⟩
    | declaredName absent =>
        exact .inl ⟨rfl, by rw [(outputName_eq_iff made).mpr (.inr ⟨absent, rfl⟩)]⟩
    | type member names text =>
        exact .inr (.inl ⟨rfl, by rw [(type_eq_iff made).mpr ⟨_, member, names, text⟩]⟩)
    | locale given =>
        exact .inr (.inr (.inl ⟨_, (locale_eq_some_iff made).mpr given, rfl, rfl⟩))
    | tokenSeparators given characters =>
        have set := (tokenSeparators_eq_some_iff made).mpr ⟨_, given, characters⟩
        exact .inr (.inr (.inr (.inl ⟨_, set, rfl, rfl⟩)))
    | symbolsToIndex given characters =>
        have set := (symbolsToIndex_eq_some_iff made).mpr ⟨_, given, characters⟩
        exact .inr (.inr (.inr (.inr (.inl ⟨_, set, rfl, rfl⟩))))
    | switch given boolean emitted =>
        have set := (mem_parameters_iff made).mpr (.inl ⟨_, given, boolean⟩)
        exact .inr (.inr (.inr (.inr (.inr ⟨_, ⟨set, emitted⟩, rfl, rfl⟩))))
    | token given emitted =>
        have set := (mem_parameters_iff made).mpr (.inr ⟨⟨_, given⟩, rfl⟩)
        exact .inr (.inr (.inr (.inr (.inr ⟨_, ⟨set, emitted⟩, rfl, rfl⟩))))

/-- The descriptor of a field tells what its option declares, and nothing else. -/
theorem describes_of_ofMap : Describes name map field.descriptor.members where
  told _ _ := mem_members_descriptor_iff made
  keys key := by
    have accepts : Accepts map := exists_ofMap_iff.mp ⟨field, made⟩
    have told : key ∈ field.descriptor.members.map Prod.fst ↔ ∃ value, Told name map key value := by
      simp only [List.mem_map, Prod.exists, exists_eq_right, exists_and_right,
        mem_members_descriptor_iff made]
    rw [told]
    constructor
    · rintro ⟨value, told⟩
      cases told with
      | name | declaredName => exact .inl rfl
      | type => exact .inr (.inl rfl)
      | locale given => exact .inr (.inr (.inl ⟨.locale, by decide, rfl, _, given⟩))
      | tokenSeparators given =>
          exact .inr (.inr (.inl ⟨.tokenSeparators, by decide, rfl, _, given⟩))
      | symbolsToIndex given =>
          exact .inr (.inr (.inl ⟨.symbolsToIndex, by decide, rfl, _, given⟩))
      | switch given _ emitted =>
          exact .inr (.inr (.inr ⟨_, emitted, rfl, _, given, .inl rfl⟩))
      | token given emitted =>
          exact .inr (.inr (.inr ⟨_, emitted, rfl, _, given, .inr ⟨_, rfl⟩⟩))
    · rintro (rfl | rfl | ⟨modifier, among, rfl, value, given⟩ |
        ⟨parameter, emitted, rfl, ⟨_, value⟩, member, rfl | ⟨position, same⟩⟩)
      · obtain given | ⟨absent, -⟩ := (outputName_eq_iff made).mp rfl
        · exact ⟨_, .name given⟩
        · exact ⟨_, .declaredName absent⟩
      · obtain ⟨entry, member, names, text⟩ := (type_eq_iff made).mp rfl
        exact ⟨_, .type member names text⟩
      · exact accepts.exists_told name among given
      · obtain ⟨switch, boolean⟩ := accepts.parameters.boolean parameter value member
        exact ⟨_, .switch member boolean emitted⟩
      · exact ⟨_, .token (same ▸ member) emitted⟩

/-- No parameter is given twice. -/
theorem nodup_parameters_of_ofMap : (field.parameters.map Prod.fst).Nodup := by
  have accepts : Accepts map := exists_ofMap_iff.mp ⟨field, made⟩
  obtain ⟨type, modifiers, parameters, -, -, switched, rfl⟩ := ofMap_eq_ok_iff.mp made
  rw [names_of_resolveParameters switched, List.nodup_iff_count_le_one]
  intro parameter
  rw [← countP_gives]
  exact accepts.parameters.once parameter

/-- No object in a descriptor has a key twice. -/
theorem keysOnce_descriptor_of_ofMap : field.descriptor.toJson.KeysOnce := by
  refine .object ?_ fun member among => (Descriptor.simple_of_mem_members _ among).keysOnce
  apply Descriptor.nodup_keys_members
  exact (nodup_parameters_of_ofMap made).sublist (List.filter_sublist.map Prod.fst)

end Described

end Field

end SearchCollection
