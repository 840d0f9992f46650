import Mathlib.Data.List.Basic
import SearchCollection.Options.Characters

/-! # Characters of nested lists

What stands in the lists of an option value besides lists are its leaves, from left to
right (`OptionValue.leaves`). A list that has no function among its leaves means what they
mean, one after the other, and any other list means nothing (`OptionValue.characters?_list`).
So it does not matter how the leaves are spread over lists in lists, which may be taken
apart at any place (`OptionValue.Unnests`).
-/

namespace SearchCollection.OptionValue

/-! ## Leaves -/

mutual

/-- What a value has besides lists, from left to right. -/
def leaves : OptionValue → List OptionValue
  | .list items => itemLeaves items
  | .text value => [.text value]
  | .bool value => [.bool value]
  | .valueFrom callback => [.valueFrom callback]
  | .transform callback => [.transform callback]

def itemLeaves : List OptionValue → List OptionValue
  | [] => []
  | item :: rest => leaves item ++ itemLeaves rest

end

theorem itemLeaves_eq_flatMap (items : List OptionValue) :
    itemLeaves items = items.flatMap leaves := by
  induction items with
  | nil => rfl
  | cons item rest ih => rw [itemLeaves, ih, List.flatMap_cons]

theorem leaves_list (items : List OptionValue) : leaves (.list items) = items.flatMap leaves := by
  rw [leaves, itemLeaves_eq_flatMap]

/-- A value is the other one, or stands at some depth in its lists. -/
inductive Occurs (inner : OptionValue) : OptionValue → Prop where
  | here : Occurs inner inner
  | inside {item : OptionValue} {items : List OptionValue} (member : item ∈ items)
      (occurs : Occurs inner item) : Occurs inner (.list items)

variable {value other leaf callback : OptionValue} {items : List OptionValue}

/-- A function stands in a list exactly when it stands in one of the items. -/
theorem occurs_list_iff (isCallback : callback.isCallback) :
    Occurs callback (.list items) ↔ ∃ item ∈ items, Occurs callback item := by
  constructor
  · intro occurs
    cases occurs with
    | here => cases isCallback
    | inside member occurs => exact ⟨_, member, occurs⟩
  · rintro ⟨item, member, occurs⟩
    exact .inside member occurs

/-- The functions among the leaves are those at any depth. -/
theorem mem_leaves_iff (isCallback : callback.isCallback) (value : OptionValue) :
    callback ∈ value.leaves ↔ Occurs callback value := by
  have alone (leaf : OptionValue) (single : leaf.leaves = [leaf])
      (plain : ∀ items, leaf ≠ .list items) : callback ∈ leaf.leaves ↔ Occurs callback leaf := by
    rw [single, List.mem_singleton]
    constructor
    · rintro rfl
      exact .here
    · intro occurs
      cases occurs with
      | here => rfl
      | inside => exact (plain _ rfl).elim
  cases value with
  | text value => exact alone _ rfl nofun
  | bool value => exact alone _ rfl nofun
  | valueFrom value => exact alone _ rfl nofun
  | transform value => exact alone _ rfl nofun
  | list items =>
      rw [leaves_list, List.mem_flatMap, occurs_list_iff isCallback]
      refine exists_congr fun item => and_congr_right fun member => ?_
      exact mem_leaves_iff isCallback item
termination_by sizeOf value

/-! ## What leaves mean -/

/-- The text of a leaf of a list. A function has none. -/
def leafText : OptionValue → String
  | .text value => value
  | .bool value => boolText value
  | .list _ | .valueFrom _ | .transform _ => ""

/-- What a leaf of a list means: a text its characters, and a Boolean its word in one piece. -/
def leafTexts : OptionValue → List String
  | .text value => splitCharacters value
  | .bool value => [boolText value]
  | .list _ | .valueFrom _ | .transform _ => []

/-- What a leaf means has the characters of its text. -/
theorem toList_join_leafTexts (leaf : OptionValue) :
    (leafTexts leaf).flatMap String.toList = leaf.leafText.toList := by
  cases leaf with
  | text value =>
      rw [leafTexts, leafText, splitCharacters, List.flatMap_map]
      simp only [String.toList_singleton, List.flatMap_singleton']
  | bool value => exact List.flatMap_singleton ..
  | _ => rfl

/-- What leaves mean is put together from their texts. -/
theorem join_flatMap_leafTexts (leaves : List OptionValue) :
    String.join (leaves.flatMap leafTexts) = String.join (leaves.map leafText) := by
  apply String.toList_inj.mp
  rw [String.toList_join, String.toList_join, List.flatMap_assoc, List.flatMap_map]
  exact congrArg (List.flatMap · leaves) (funext toList_join_leafTexts)

/-- Each piece of what a leaf means is one character or the word for a Boolean. -/
theorem eq_of_mem_leafTexts {text : String} (member : text ∈ leafTexts leaf) :
    (∃ c, text = String.singleton c) ∨ ∃ flag, leaf = .bool flag ∧ text = boolText flag := by
  cases leaf with
  | text value =>
      obtain ⟨c, -, rfl⟩ := List.mem_map.mp member
      exact .inl ⟨c, rfl⟩
  | bool flag => exact .inr ⟨flag, rfl, List.mem_singleton.mp member⟩
  | list items => cases member
  | valueFrom callback => cases member
  | transform callback => cases member

/-- What a list with the given leaves means; nothing if one of them is a function. -/
def leafCharacters? (leaves : List OptionValue) : Option (List String) :=
  if leaves.any isCallback then none else some (leaves.flatMap leafTexts)

/-- Leaves mean what their two parts mean, one after the other. -/
theorem leafCharacters?_append (first second : List OptionValue) :
    leafCharacters? (first ++ second) = do
      return (← leafCharacters? first) ++ (← leafCharacters? second) := by
  unfold leafCharacters?
  rw [List.any_append, List.flatMap_append]
  cases first.any isCallback <;> cases second.any isCallback <;> rfl

/-- Leaves mean nothing exactly when one of them is a function. -/
theorem leafCharacters?_eq_none_iff {leaves : List OptionValue} :
    leafCharacters? leaves = none ↔ ∃ callback ∈ leaves, callback.isCallback := by
  rw [← List.any_eq_true, leafCharacters?]
  cases leaves.any isCallback <;> simp

/-- Leaves without a function mean what each of them does, one after the other. -/
theorem leafCharacters?_eq_some_iff {leaves : List OptionValue} {texts : List String} :
    leafCharacters? leaves = some texts ↔
      (∀ leaf ∈ leaves, ¬leaf.isCallback) ∧ texts = leaves.flatMap leafTexts := by
  rw [leafCharacters?]
  split
  · next found =>
      obtain ⟨callback, member, isCallback⟩ := List.any_eq_true.mp found
      exact iff_of_false nofun fun ⟨plain, _⟩ => plain callback member isCallback
  · next missing =>
      rw [Option.some.injEq, eq_comm, iff_and_self]
      intro _ leaf member isCallback
      exact missing (List.any_eq_true.mpr ⟨leaf, member, isCallback⟩)

/-! ## Lists of characters -/

/-- A list means what its first item and its other items mean, one after the other. -/
theorem itemCharacters?_cons (item : OptionValue) (rest : List OptionValue) :
    itemCharacters? (item :: rest) = do
      return (← itemCharacters? [item]) ++ (← itemCharacters? rest) := by
  cases item with
  | bool value => cases found : itemCharacters? rest <;> simp [itemCharacters?, found]
  | text value => simp [itemCharacters?]
  | list items => cases found : characters? (.list items) <;> simp [itemCharacters?, found]
  | valueFrom callback => rfl
  | transform callback => rfl

/-- A list as the only item means what its items mean. -/
theorem itemCharacters?_list (items : List OptionValue) :
    itemCharacters? [.list items] = itemCharacters? items := by
  cases found : itemCharacters? items <;> simp [itemCharacters?, characters?, found]

mutual

/-- An item alone means what its leaves mean. -/
theorem itemCharacters?_single : ∀ item : OptionValue,
    itemCharacters? [item] = leafCharacters? item.leaves
  | .text value => by
      simp [itemCharacters?, characters?, leaves, leafCharacters?, isCallback, leafTexts]
  | .bool _ | .valueFrom _ | .transform _ => rfl
  | .list items => by
      rw [itemCharacters?_list, itemCharacters?_eq items, leaves_list]

/-- Items mean what their leaves mean. -/
theorem itemCharacters?_eq : ∀ items : List OptionValue,
    itemCharacters? items = leafCharacters? (items.flatMap leaves)
  | [] => rfl
  | item :: rest => by
      rw [itemCharacters?_cons, itemCharacters?_single item, itemCharacters?_eq rest,
        List.flatMap_cons, leafCharacters?_append]

end

/-- A list means what its leaves mean. -/
theorem characters?_list (items : List OptionValue) :
    characters? (.list items) = leafCharacters? (items.flatMap leaves) :=
  itemCharacters?_eq items

/-- Outside of lists a Boolean means nothing; every other value means what its leaves mean. -/
theorem characters?_eq (plain : ∀ flag, value ≠ .bool flag) :
    value.characters? = leafCharacters? value.leaves := by
  cases value with
  | text value =>
      simp [characters?, leaves, leafCharacters?, isCallback, leafTexts]
  | bool flag => exact (plain flag rfl).elim
  | list items => rw [characters?_list, leaves_list]
  | valueFrom callback => rfl
  | transform callback => rfl

/-- A value means no characters exactly when it is a Boolean or a function stands in it. -/
theorem characters?_eq_none_iff :
    value.characters? = none ↔ (∃ flag, value = .bool flag) ∨
      ∃ callback : OptionValue, callback.isCallback ∧ Occurs callback value := by
  by_cases boolean : ∃ flag, value = .bool flag
  · obtain ⟨flag, rfl⟩ := boolean
    exact iff_of_true rfl (.inl ⟨flag, rfl⟩)
  · rw [or_iff_right boolean, characters?_eq (not_exists.mp boolean),
      leafCharacters?_eq_none_iff]
    refine exists_congr fun callback => ?_
    rw [and_comm, and_congr_right_iff]
    exact fun isCallback => mem_leaves_iff isCallback value

/-- The second value is the first one with a list that stands in a list, at any depth, replaced by
its items. -/
inductive Unnests : OptionValue → OptionValue → Prop where
  | splice (before items after : List OptionValue) :
      Unnests (.list (before ++ .list items :: after)) (.list (before ++ items ++ after))
  | within (before after : List OptionValue) {value other : OptionValue}
      (unnests : Unnests value other) :
      Unnests (.list (before ++ value :: after)) (.list (before ++ other :: after))

namespace Unnests

/-- Replacing an inner list by its items keeps the leaves. -/
theorem leaves_eq (unnests : Unnests value other) : other.leaves = value.leaves := by
  induction unnests with
  | splice before items after =>
      simp only [leaves_list, List.flatMap_append, List.flatMap_cons, List.append_assoc]
  | within before after unnests same =>
      simp only [leaves_list, List.flatMap_append, List.flatMap_cons, same]

theorem ne_bool (unnests : Unnests value other) (flag : Bool) :
    value ≠ .bool flag ∧ other ≠ .bool flag := by
  cases unnests <;> exact ⟨nofun, nofun⟩

/-- Replacing an inner list by its items keeps the characters that are meant. -/
theorem characters?_eq (unnests : Unnests value other) :
    other.characters? = value.characters? := by
  rw [OptionValue.characters?_eq fun flag => (unnests.ne_bool flag).1,
    OptionValue.characters?_eq fun flag => (unnests.ne_bool flag).2, unnests.leaves_eq]

end Unnests

/-- **Lists of characters are flattened.** A value means nothing exactly if it is a Boolean, or a
function is it or stands in its lists at some depth. Any other value means the characters of the
texts and the words of the Booleans among its leaves, from left to right. Two lists put together
mean what they mean one after the other, and a list in a list the same as its items in its place. -/
theorem characters_flattened (value : OptionValue) :
    (value.characters? = none ↔ (∃ flag, value = .bool flag) ∨
      ∃ callback : OptionValue, callback.isCallback ∧ Occurs callback value) ∧
    (∀ texts, value.characters? = some texts →
      texts = value.leaves.flatMap leafTexts ∧
      (∀ text ∈ texts, (∃ c, text = String.singleton c) ∨ text = "true" ∨ text = "false") ∧
      String.join texts = String.join (value.leaves.map leafText)) ∧
    (∀ first second : List OptionValue, characters? (.list (first ++ second)) = do
      return (← characters? (.list first)) ++ (← characters? (.list second))) ∧
    ∀ other, Unnests value other → other.characters? = value.characters? := by
  refine ⟨characters?_eq_none_iff, fun texts found => ?_, fun first second => ?_,
    fun other unnests => unnests.characters?_eq⟩
  · have plain : ∀ flag, value ≠ .bool flag := by
      rintro flag rfl
      cases found
    rw [characters?_eq plain] at found
    obtain ⟨-, rfl⟩ := leafCharacters?_eq_some_iff.mp found
    refine ⟨rfl, fun text member => ?_, join_flatMap_leafTexts value.leaves⟩
    obtain ⟨leaf, -, member⟩ := List.mem_flatMap.mp member
    refine (eq_of_mem_leafTexts member).imp_right ?_
    rintro ⟨flag, -, rfl⟩
    cases flag
    · exact .inr rfl
    · exact .inl rfl
  · simp only [characters?_list, List.flatMap_append]
    exact leafCharacters?_append _ _

/-- Marks in a list of lists mean the same with the inner list replaced by its items. -/
theorem characters_flattened_marks :
    characters? (.list [.text "#é", .list [.bool true, .list [], .text "+"], .bool false]) =
      some ["#", "é", "true", "+", "false"] ∧
    String.join ["#", "é", "true", "+", "false"] = String.join ["#é", "true", "+", "false"] ∧
    characters? (.list [.text "#é", .bool true, .list [], .text "+", .bool false]) =
      some ["#", "é", "true", "+", "false"] := by
  obtain ⟨-, meaning, -, unnested⟩ := characters_flattened
    (.list [.text "#é", .list [.bool true, .list [], .text "+"], .bool false])
  have nested :
      characters? (.list [.text "#é", .list [.bool true, .list [], .text "+"], .bool false]) =
        some ["#", "é", "true", "+", "false"] := by
    decide
  obtain ⟨-, -, joined⟩ := meaning _ nested
  refine ⟨nested, joined, ?_⟩
  rw [← nested]
  exact unnested _ (.splice [.text "#é"] [.bool true, .list [], .text "+"] [.bool false])

end SearchCollection.OptionValue
