import Mathlib.Data.List.Basic
import SearchCollection.Options.Boolean
import SearchCollection.Options.Characters
import SearchCollection.Options.Basic

/-! # Options without identities

Two functions of equal effect may still be two objects. `anonymous` forgets which
object a function is and keeps what it computes, so that `a.anonymous = b.anonymous`
says of two options that they are the same but for the identities in them. What
is read off an option value does not depend on identities, and the normal form of
an option keeps them where they are (`FieldOption.normalize_anonymous`).
-/

namespace SearchCollection

/-- What the function computes, under one identity for all. -/
def Callback.anonymous {α β : Type} (callback : Callback α β) : Callback α β where
  identity := 0
  run := callback.run

namespace OptionValue

mutual

/-- The value without the identities of its functions. -/
def anonymous : OptionValue → OptionValue
  | .text value => .text value
  | .bool value => .bool value
  | .list items => .list (anonymousItems items)
  | .valueFrom callback => .valueFrom callback.anonymous
  | .transform callback => .transform callback.anonymous

def anonymousItems : List OptionValue → List OptionValue
  | [] => []
  | item :: rest => anonymous item :: anonymousItems rest

end

theorem anonymousItems_eq_map (items : List OptionValue) :
    anonymousItems items = items.map anonymous := by
  induction items with
  | nil => rfl
  | cons item rest ih => rw [anonymousItems, ih, List.map_cons]

theorem anonymous_list (items : List OptionValue) :
    anonymous (.list items) = .list (items.map anonymous) := by
  rw [anonymous, anonymousItems_eq_map]

theorem text?_anonymous (value : OptionValue) : value.anonymous.text? = value.text? := by
  cases value <;> rfl

theorem boolean?_anonymous (value : OptionValue) : value.anonymous.boolean? = value.boolean? := by
  cases value <;> rfl

mutual

/-- A value is described without the identities of its functions. -/
theorem describe_anonymous : ∀ value : OptionValue, value.anonymous.describe = value.describe
  | .text _ | .bool _ | .valueFrom _ | .transform _ => rfl
  | .list items => by
      rw [anonymous, describe, describe, describeItems_anonymousItems items]

theorem describeItems_anonymousItems : ∀ items : List OptionValue,
    describeItems (anonymousItems items) = describeItems items
  | [] => rfl
  | item :: rest => by
      rw [anonymousItems, describeItems, describeItems, describe_anonymous item,
        describeItems_anonymousItems rest]

end

mutual

/-- A value stands for the same constant whatever the identities of its functions are. -/
theorem toValue_anonymous : ∀ value : OptionValue, value.anonymous.toValue = value.toValue
  | .text _ | .bool _ | .valueFrom _ | .transform _ => rfl
  | .list items => by
      rw [anonymous, toValue, toValue, itemsToValue_anonymousItems items]

theorem itemsToValue_anonymousItems : ∀ items : List OptionValue,
    itemsToValue (anonymousItems items) = itemsToValue items
  | [] => rfl
  | item :: rest => by
      rw [anonymousItems, itemsToValue, itemsToValue, toValue_anonymous item,
        itemsToValue_anonymousItems rest]

end

mutual

/-- The characters of a value have nothing to do with the identities of functions. -/
theorem characters?_anonymous : ∀ value : OptionValue,
    value.anonymous.characters? = value.characters?
  | .text _ | .bool _ | .valueFrom _ | .transform _ => rfl
  | .list items => by
      rw [anonymous, characters?, characters?, itemCharacters?_anonymousItems items]

theorem itemCharacters?_anonymousItems : ∀ items : List OptionValue,
    itemCharacters? (anonymousItems items) = itemCharacters? items
  | [] => rfl
  -- A Boolean in a list has its own branch, so the items are told apart by their kinds.
  | .bool value :: rest => by
      rw [anonymousItems, anonymous, itemCharacters?, itemCharacters?,
        itemCharacters?_anonymousItems rest]
  | .text value :: rest => by
      simp only [anonymousItems, anonymous, itemCharacters?, itemCharacters?_anonymousItems rest]
  | .list items :: rest => by
      have head := characters?_anonymous (.list items)
      rw [anonymous] at head
      simp only [anonymousItems, anonymous, itemCharacters?, head,
        itemCharacters?_anonymousItems rest]
  | .valueFrom callback :: rest => by
      simp only [anonymousItems, anonymous, itemCharacters?, characters?,
        itemCharacters?_anonymousItems rest]
  | .transform callback :: rest => by
      simp only [anonymousItems, anonymous, itemCharacters?, characters?,
        itemCharacters?_anonymousItems rest]

end

end OptionValue

namespace OptionEntry

def anonymous : OptionEntry → OptionEntry
  | .positional value => .positional value.anonymous
  | .keyed key value => .keyed key value.anonymous

end OptionEntry

namespace OptionMap

/-- An entry of an option in normal form without the identities in it. -/
def anonymousEntry (entry : OptionKey × OptionValue) : OptionKey × OptionValue :=
  (entry.1, entry.2.anonymous)

/-- A value makes the same entry, but for the identities of its functions. -/
theorem entryOf_anonymous (key : OptionKey) (value : OptionValue) :
    entryOf key value.anonymous = anonymousEntry (entryOf key value) := by
  cases value with
  | text token =>
      simp only [OptionValue.anonymous, entryOf]
      split <;> rfl
  | bool value => rfl
  | list items => rfl
  | valueFrom callback => rfl
  | transform callback => rfl

end OptionMap

namespace FieldOption

/-- The option without the identities of its functions. -/
def anonymous : FieldOption → FieldOption
  | .tokens text => .tokens text
  | .list entries => .list (entries.map OptionEntry.anonymous)
  | .flag value => .flag value

/-- The entries of an option lose the identities of their functions one by one. -/
theorem entries_anonymous (option : FieldOption) :
    option.anonymous.entries = option.entries.map OptionEntry.anonymous := by
  cases option with
  | tokens text =>
      simp only [anonymous, entries, List.map_map]
      rfl
  | list entries => rfl
  | flag value => rfl

/-- An entry is brought into normal form alike whatever the identities of its functions are. -/
theorem normalizeEntry_anonymous (position : Nat) (entry : OptionEntry) :
    normalizeEntry position entry.anonymous =
      OptionMap.anonymousEntry (normalizeEntry position entry) := by
  cases entry with
  | positional value => exact OptionMap.entryOf_anonymous (.index position) value
  | keyed key value => exact OptionMap.entryOf_anonymous (.name key) value

end FieldOption

namespace Normalized

/-- The option in normal form without the identities of its functions. -/
def anonymous : Normalized → Normalized
  | .flag value => .flag value
  | .options map => .options (map.map OptionMap.anonymousEntry)

theorem entries_anonymous (option : Normalized) :
    option.anonymous.entries = option.entries.map OptionMap.anonymousEntry := by
  cases option <;> rfl

theorem settingValues_anonymous (option : Normalized) :
    option.anonymous.settingValues = option.settingValues.map OptionValue.anonymous := by
  cases option with
  | flag value => rfl
  | options map =>
      simp only [anonymous, settingValues, OptionMap.values, List.map_map]
      rfl

end Normalized

/-- The normal form of an option without identities is its normal form, without identities. -/
theorem FieldOption.normalize_anonymous (option : FieldOption) :
    option.anonymous.normalize = option.normalize.anonymous := by
  have mapped : option.anonymous.entries.mapIdx normalizeEntry =
      (option.entries.mapIdx normalizeEntry).map OptionMap.anonymousEntry := by
    refine List.ext_getElem? fun position => ?_
    rw [entries_anonymous, List.getElem?_mapIdx, List.getElem?_map, List.getElem?_map,
      List.getElem?_mapIdx, Option.map_map, Option.map_map]
    refine congrArg (Option.map · _) (funext fun entry => ?_)
    exact normalizeEntry_anonymous position entry
  cases option with
  | tokens text => exact congrArg Normalized.options mapped
  | list entries => exact congrArg Normalized.options mapped
  | flag value => rfl

end SearchCollection
