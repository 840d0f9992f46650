import Mathlib.Data.List.Forall2
import SearchCollection.DeclarationFile.Basic
import SearchCollection.Field.Resolution
import SearchCollection.Proofs.Options.Tokens

/-! # The notations of one option

Tokens can be declared as one text with bars, as a list, or by adding to either,
and in a list a token with one colon may be an entry with a key
(`FieldOption.Spells`). In a declaration file they can be a text, a list, or a
mapping, and a list may gather entries with keys in mappings of its own
(`Yaml.Spells`). A file's tree is read as an option that spells the same tokens
(`Yaml.Spells.exists_fieldOption`), and all options that do have one normal form
and declare one field (`notations_agree`).
-/

namespace SearchCollection

namespace OptionEntry

/-- The entry stands for the token: it is the token, or its key and its value are the parts of the
token around its only colon. -/
inductive Spells : OptionEntry → String → Prop
  | positional (token : String) : Spells (.positional (.text token)) token
  | keyed {name value : String} (plainName : ':' ∉ name.toList)
      (plainValue : ':' ∉ value.toList) : Spells (.keyed name (.text value)) (name ++ ":" ++ value)

/-- An entry in any notation has the normal form of its token. -/
theorem Spells.normalizeEntry_eq {entry : OptionEntry} {token : String}
    (spelled : entry.Spells token) (position : Nat) :
    FieldOption.normalizeEntry position entry =
      OptionMap.entryOf (.index position) (.text token) := by
  cases spelled with
  | positional => rfl
  | @keyed name value plainName plainValue =>
      have kept : OptionMap.entryOf (.name name) (.text value) = (.name name, .text value) :=
        OptionMap.entryOf_of_plain (.name name) plainValue
      rw [FieldOption.normalizeEntry, kept, OptionMap.entryOf_colon _ plainName]

end OptionEntry

theorem mapIdx_eq_of_forall₂ {α β γ : Type} {related : α → β → Prop} {items : List α}
    {others : List β} {first : Nat → α → γ} {second : Nat → β → γ}
    (pairs : List.Forall₂ related items others)
    (same : ∀ position item other, related item other →
      first position item = second position other) :
    items.mapIdx first = others.mapIdx second := by
  induction pairs generalizing first second with
  | nil => rfl
  | cons head _ ih =>
      rw [List.mapIdx_cons, List.mapIdx_cons, same 0 _ _ head]
      exact congrArg _ (ih fun position => same (position + 1))

namespace FieldOption

/-- The option declares the tokens. -/
inductive Spells : FieldOption → List String → Prop
  | tokens {tokens : List String} (some : tokens ≠ []) :
      Spells (.tokens ("|".intercalate tokens)) tokens
  | list {entries : List OptionEntry} {tokens : List String}
      (spelled : List.Forall₂ OptionEntry.Spells entries tokens) : Spells (.list entries) tokens
  | token {option : FieldOption} {tokens : List String} (start : Spells option tokens)
      (last : String) : Spells (option.token (.text last)) (tokens ++ [last])
  | set {option : FieldOption} {tokens : List String} (start : Spells option tokens)
      {name value : String} (plainName : ':' ∉ name.toList) (plainValue : ':' ∉ value.toList) :
      Spells (option.set name (.text value)) (tokens ++ [name ++ ":" ++ value])

variable {option : FieldOption} {tokens : List String}

/-- An option that declares tokens has one entry for each of them. -/
theorem Spells.forall₂_entries (spelled : option.Spells tokens)
    (plain : ∀ token ∈ tokens, '|' ∉ token.toList) :
    List.Forall₂ OptionEntry.Spells option.entries tokens := by
  induction spelled with
  | tokens some =>
      rw [entries, tokensOf_intercalate some plain, List.forall₂_map_left_iff]
      exact List.forall₂_same.mpr fun token _ => .positional token
  | list spelled => exact spelled
  | token start last ih =>
      have before := ih fun token member => plain token (List.mem_append_left _ member)
      exact List.rel_append before (.cons (.positional last) .nil)
  | set start plainName plainValue ih =>
      have before := ih fun token member => plain token (List.mem_append_left _ member)
      exact List.rel_append before (.cons (.keyed plainName plainValue) .nil)

/-- An option that spells tokens has its entries brought into normal form one by one. -/
theorem Spells.normalize_eq_entries (spelled : option.Spells tokens) :
    option.normalize = .options (option.entries.mapIdx normalizeEntry) := by
  cases spelled <;> rfl

/-- An option in any notation has the normal form of its tokens. -/
theorem Spells.normalize_eq (spelled : option.Spells tokens)
    (plain : ∀ token ∈ tokens, '|' ∉ token.toList) :
    option.normalize = .options (OptionMap.ofTokens tokens) := by
  rw [spelled.normalize_eq_entries, OptionMap.ofTokens]
  refine congrArg Normalized.options (mapIdx_eq_of_forall₂ (spelled.forall₂_entries plain) ?_)
  intro position entry token same
  exact same.normalizeEntry_eq position

end FieldOption

namespace Yaml

/-- The tree is read as the text where a text is wanted: it is the text or a number. A Boolean
stays what it is. -/
inductive ReadsAs : Yaml → String → Prop
  | string (text : String) : ReadsAs (.string text) text
  | number (value : YamlNumber) : ReadsAs (.number value) value.text

/-- The entry of a mapping stands for the token, whose only colon is between key and value. -/
inductive EntrySpells : Yaml × Yaml → String → Prop
  | keyed {key tree : Yaml} {name value : String} (named : key.ReadsAs name)
      (given : tree.ReadsAs value) (plainName : ':' ∉ name.toList)
      (plainValue : ':' ∉ value.toList) : EntrySpells (key, tree) (name ++ ":" ++ value)

/-- The items of a list stand for the tokens; a mapping gathers one or more of them. -/
inductive ItemsSpell : List Yaml → List String → Prop
  | nil : ItemsSpell [] []
  | scalar {item : Yaml} {items : List Yaml} {token : String} {tokens : List String}
      (reads : item.ReadsAs token) (others : ItemsSpell items tokens) :
      ItemsSpell (item :: items) (token :: tokens)
  | mapping {entries : List (Yaml × Yaml)} {items : List Yaml} {gathered tokens : List String}
      (spelled : List.Forall₂ EntrySpells entries gathered) (others : ItemsSpell items tokens) :
      ItemsSpell (.mapping entries :: items) (gathered ++ tokens)

/-- The tree of a declaration file declares the tokens. -/
inductive Spells : Yaml → List String → Prop
  | scalar {tree : Yaml} {tokens : List String} (some : tokens ≠ [])
      (reads : tree.ReadsAs ("|".intercalate tokens)) : Spells tree tokens
  | sequence {items : List Yaml} {tokens : List String} (spelled : ItemsSpell items tokens) :
      Spells (.sequence items) tokens
  | mapping {entries : List (Yaml × Yaml)} {tokens : List String}
      (spelled : List.Forall₂ EntrySpells entries tokens) : Spells (.mapping entries) tokens

variable {tree : Yaml} {text : String} {entries : List (Yaml × Yaml)} {items : List Yaml}
  {tokens : List String}

theorem ReadsAs.scalarText?_eq (reads : tree.ReadsAs text) : tree.scalarText? = some text := by
  cases reads <;> rfl

theorem ReadsAs.optionValue_eq (reads : tree.ReadsAs text) :
    optionValue tree = .ok (.text text) := by
  cases reads <;> rw [optionValue]

theorem ReadsAs.fieldOption_eq (reads : tree.ReadsAs text) :
    fieldOption tree = .ok (.tokens text) := by
  cases reads <;> rfl

/-- An item read as a text is one entry without a key. -/
theorem ReadsAs.itemEntries_eq (reads : tree.ReadsAs text) :
    itemEntries tree = .ok [.positional (.text text)] := by
  cases reads with
  | string => rw [itemEntries, optionValue]; rfl; nofun
  | number => rw [itemEntries, optionValue]; rfl; nofun

/-- A mapping of keys and values gives one entry with a key for each token. -/
theorem exists_keyedEntries (spelled : List.Forall₂ EntrySpells entries tokens) :
    ∃ given, keyedEntries entries = .ok given ∧ List.Forall₂ OptionEntry.Spells given tokens := by
  induction spelled with
  | nil => exact ⟨[], rfl, .nil⟩
  | cons head _ ih =>
      obtain ⟨given, read, others⟩ := ih
      cases head with
      | @keyed key tree name value named valued plainName plainValue =>
          refine ⟨.keyed name (.text value) :: given, ?_, .cons (.keyed plainName plainValue) others⟩
          rw [keyedEntries, named.scalarText?_eq]
          simp only [valued.optionValue_eq, read]
          rfl

/-- Items that spell tokens are read as entries that spell them. -/
theorem ItemsSpell.exists_listEntries (spelled : ItemsSpell items tokens) :
    ∃ given, listEntries items = .ok given ∧ List.Forall₂ OptionEntry.Spells given tokens := by
  induction spelled with
  | nil => exact ⟨[], rfl, .nil⟩
  | @scalar item items token tokens reads _ ih =>
      obtain ⟨given, read, others⟩ := ih
      refine ⟨.positional (.text token) :: given, ?_, .cons (.positional token) others⟩
      rw [listEntries, reads.itemEntries_eq, read]
      rfl
  | mapping gathered _ ih =>
      obtain ⟨first, readFirst, spelledFirst⟩ := exists_keyedEntries gathered
      obtain ⟨given, read, others⟩ := ih
      refine ⟨first ++ given, ?_, List.rel_append spelledFirst others⟩
      rw [listEntries, itemEntries, readFirst, read]
      rfl

/-- A tree that declares tokens is read as an option that declares them. -/
theorem Spells.exists_fieldOption (spelled : tree.Spells tokens) :
    ∃ option, fieldOption tree = .ok option ∧ option.Spells tokens := by
  cases spelled with
  | scalar some reads => exact ⟨_, reads.fieldOption_eq, .tokens some⟩
  | sequence spelled =>
      obtain ⟨given, read, same⟩ := spelled.exists_listEntries
      refine ⟨.list given, ?_, .list same⟩
      rw [fieldOption, read]
      rfl
  | mapping spelled =>
      obtain ⟨given, read, same⟩ := exists_keyedEntries spelled
      refine ⟨.list given, ?_, .list same⟩
      rw [fieldOption, read]
      rfl

end Yaml

/-- **Notations agree.** All options that declare the same tokens have one normal form, and so do
the options that trees of these tokens are read as. They declare the same field or fail with the
same fault. -/
theorem notations_agree (tokens : List String) (plain : ∀ token ∈ tokens, '|' ∉ token.toList) :
    (∀ option : FieldOption, option.Spells tokens →
      option.normalize = .options (OptionMap.ofTokens tokens)) ∧
    (∀ tree : Yaml, tree.Spells tokens → ∃ option, Yaml.fieldOption tree = .ok option ∧
      option.Spells tokens ∧ option.normalize = .options (OptionMap.ofTokens tokens)) ∧
    ∀ (record field : String) (first second : FieldOption),
      first.Spells tokens → second.Spells tokens →
      Field.resolve record field first.normalize = Field.resolve record field second.normalize := by
  refine ⟨fun option spelled => spelled.normalize_eq plain, ?_, ?_⟩
  · intro tree spelled
    obtain ⟨option, read, same⟩ := spelled.exists_fieldOption
    exact ⟨option, read, same, same.normalize_eq plain⟩
  · intro record field first second spelledFirst spelledSecond
    rw [spelledFirst.normalize_eq plain, spelledSecond.normalize_eq plain]

/-- A searchable text under another name. -/
def headlineTokens : List String := ["string", "name:title", "locale:en", "searchable"]

/-- The same in steps, starting from a text. -/
def headlineOption : FieldOption :=
  ((FieldOption.tokens "string|name:title").set "locale" (.text "en")).token (.text "searchable")

/-- The same in a file, with the two named tokens in one mapping. -/
def headlineTree : Yaml :=
  .sequence [.string "string",
    .mapping [(.string "name", .string "title"), (.string "locale", .string "en")],
    .string "searchable"]

/-- The steps spell the tokens of the headline. -/
theorem spells_headlineOption : headlineOption.Spells headlineTokens := by
  have start : (FieldOption.tokens "string|name:title").Spells ["string", "name:title"] :=
    @FieldOption.Spells.tokens ["string", "name:title"] (by decide)
  have named : ((FieldOption.tokens "string|name:title").set "locale" (.text "en")).Spells
      ["string", "name:title", "locale:en"] := .set start (by decide) (by decide)
  exact .token named "searchable"

/-- The file spells the tokens of the headline. -/
theorem spells_headlineTree : headlineTree.Spells headlineTokens := by
  have named : Yaml.EntrySpells (.string "name", .string "title") "name:title" :=
    .keyed (.string "name") (.string "title") (by decide) (by decide)
  have located : Yaml.EntrySpells (.string "locale", .string "en") "locale:en" :=
    .keyed (.string "locale") (.string "en") (by decide) (by decide)
  have last : Yaml.ItemsSpell [.string "searchable"] ["searchable"] :=
    .scalar (.string "searchable") .nil
  exact .sequence (.scalar (.string "string") (.mapping (.cons named (.cons located .nil)) last))

/-- The headline is the same option in one text, in steps and in a file. -/
theorem notations_agree_headline :
    (∀ token ∈ headlineTokens, '|' ∉ token.toList) ∧
    headlineOption.normalize =
      (FieldOption.tokens "string|name:title|locale:en|searchable").normalize ∧
    ∃ option, Yaml.fieldOption headlineTree = .ok option ∧
      option.normalize = headlineOption.normalize := by
  have plain : ∀ token ∈ headlineTokens, '|' ∉ token.toList := by decide
  obtain ⟨options, trees, -⟩ := notations_agree headlineTokens plain
  have text : (FieldOption.tokens "string|name:title|locale:en|searchable").Spells
      headlineTokens := @FieldOption.Spells.tokens headlineTokens (by decide)
  obtain ⟨option, read, -, normal⟩ := trees headlineTree spells_headlineTree
  have steps := options headlineOption spells_headlineOption
  exact ⟨plain, steps.trans (options _ text).symm, option, read, normal.trans steps.symm⟩

end SearchCollection
