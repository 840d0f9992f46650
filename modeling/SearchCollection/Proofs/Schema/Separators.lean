import SearchCollection.Proofs.Field.Acceptance
import SearchCollection.Proofs.Options.Tokens
import SearchCollection.Proofs.Schema.Assembled

/-! # Separators and symbols through the option parser

Two lists of characters can be given to a whole collection and to a field
(`CharacterList`). A text without a colon means its characters, one by one, in
both places. A text with a colon is an entry of its own, named by what stands
before the first colon, also behind the key of a list: as a setting it means the
characters behind the colon, and for a field it is the modifier of that name
(`CharacterList.characters_kept`). So a colon cannot be a separator by itself
(`CharacterList.colon_dropped`).
-/

namespace SearchCollection

/-- The lists of characters that a collection and a field have by the same name. -/
inductive CharacterList where
  | tokenSeparators
  | symbolsToIndex

namespace CharacterList

def setting : CharacterList → Setting
  | .tokenSeparators => .tokenSeparators
  | .symbolsToIndex => .symbolsToIndex

def modifier : CharacterList → Modifier
  | .tokenSeparators => .tokenSeparators
  | .symbolsToIndex => .symbolsToIndex

/-- The list among the modifiers of a field. -/
def given (list : CharacterList) (modifiers : Modifiers) : Option (List String) :=
  match list with
  | .tokenSeparators => modifiers.tokenSeparators
  | .symbolsToIndex => modifiers.symbolsToIndex

variable {list : CharacterList} {text name rest : String}

/-! ## As a setting -/

/-- The option of a list with one text. -/
def single (text : String) : FieldOption := .list [.positional (.text text)]

/-- A text without a colon is given to a setting as it is. -/
theorem settingValues_single_of_plain (plain : ':' ∉ text.toList) :
    (single text).normalize.settingValues = [.text text] := by
  have entry : OptionMap.entryOf (.index 0) (.text text) = (.index 0, .text text) :=
    OptionMap.entryOf_of_plain _ plain
  change [(OptionMap.entryOf (.index 0) (.text text)).2] = [.text text]
  rw [entry]

/-- A text with a colon gives a setting what stands behind the first one. -/
theorem settingValues_single_colon (plain : ':' ∉ name.toList) (rest : String) :
    (single (name ++ ":" ++ rest)).normalize.settingValues = [.text rest] := by
  change [(OptionMap.entryOf (.index 0) (.text (name ++ ":" ++ rest))).2] = [.text rest]
  rw [OptionMap.entryOf_colon _ plain]

/-- One text is read as its characters, whatever the fields are. -/
theorem read_eq_characters {option : Normalized} (values : option.settingValues = [.text text])
    (record : String) (typeOf? : String → Option FieldType) :
    list.setting.read record typeOf? option =
      .ok (.characters (text.toList.map String.singleton)) := by
  have characters : (OptionValue.list [.text text]).characters? =
      some (text.toList.map String.singleton) := by
    simp [OptionValue.characters?, OptionValue.itemCharacters?, splitCharacters]
  cases list <;> rw [Setting.read, values, setting, Setting.readValues, characters] <;> rfl

/-- Some text is read from the option of a single text, the same for all fields. -/
theorem exists_settingValues_single (text : String) :
    ∃ kept, (single text).normalize.settingValues = [.text kept] := by
  rcases OptionMap.plain_or_colon text with plain | ⟨name, rest, plain, rfl⟩
  · exact ⟨text, settingValues_single_of_plain plain⟩
  · exact ⟨rest, settingValues_single_colon plain rest⟩

variable {type : RecordType} {declaration : Declaration}

/-- A setting that is declared has its entry in normal form. -/
theorem mem_settingEntries {setting : Setting} {option : FieldOption}
    (member : (setting.name, option) ∈ declaration.entries) :
    (setting, option.normalize) ∈ Schema.settingEntries (type.normalized declaration) := by
  rw [Schema.mem_settingEntries, RecordType.normalized, type.entries_complete, List.append_assoc]
  exact List.mem_map.mpr ⟨_, List.mem_append_left _ member, rfl⟩

/-- A declaration with a list of one text is assembled exactly when its fields resolve and its other
settings can be read. -/
theorem exists_assemble_single_iff (declared : type.declared = .ok declaration)
    (member : (list.setting.name, single text) ∈ declaration.entries) :
    (∃ schema, assemble type = .ok schema) ↔
      ∃ fields,
        Schema.Resolves type.name (Schema.fieldEntries (type.normalized declaration)) fields ∧
        ∀ entry ∈ Schema.settingEntries (type.normalized declaration), entry.1 ≠ list.setting →
          ∃ value, entry.1.read type.name (Schema.typeOf? fields) entry.2 = .ok value := by
  rw [exists_assemble_iff declared]
  refine exists_congr fun fields => and_congr_right fun _ => ⟨?_, ?_⟩
  · intro readable entry entryMember _
    exact readable entry entryMember
  · intro others entry entryMember
    by_cases same : entry.1 = list.setting
    · -- No setting is declared twice, so the entry is the one with the text.
      have nodup := Schema.nodup_settingEntries (type.nodup_normalized declaration)
      have equal : entry = (list.setting, (single text).normalize) :=
        List.inj_on_of_nodup_map nodup entryMember (mem_settingEntries member) same
      obtain ⟨kept, values⟩ := exists_settingValues_single text
      rw [equal]
      exact ⟨_, read_eq_characters values type.name (Schema.typeOf? fields)⟩
    · exact others entry entryMember same

/-- A list of characters that a schema is declared with is set in it. -/
theorem mem_settings_of_assemble {schema : Schema} {kept : String}
    (declared : type.declared = .ok declaration)
    (member : (list.setting.name, single text) ∈ declaration.entries)
    (values : (single text).normalize.settingValues = [.text kept])
    (assembled : assemble type = .ok schema) :
    (list.setting, .characters (kept.toList.map String.singleton)) ∈ schema.settings := by
  obtain ⟨-, -, -, reads⟩ := (assemble_eq_ok_iff declared).mp assembled
  obtain ⟨value, found, read⟩ := reads.exists_mem (mem_settingEntries member)
  have characters : list.setting.read type.name (Schema.typeOf? schema.fields)
      (single text).normalize = .ok (.characters (kept.toList.map String.singleton)) :=
    read_eq_characters values type.name (Schema.typeOf? schema.fields)
  rw [characters, Except.ok.injEq] at read
  exact read ▸ found

/-! ## As a modifier of a field -/

variable {field record : String} {fieldType : FieldType} {map : OptionMap} {result : Field}

theorem plain_typeName (type : FieldType) : ':' ∉ type.name.toList := by
  cases type <;> decide

theorem key_ne_parameterName (list : CharacterList) (parameter : Parameter) :
    list.modifier.key ≠ parameter.name := by
  cases list <;> cases parameter <;> decide

/-- The key of a list of characters is reserved. -/
theorem reserved_key (list : CharacterList) : Field.Reserved (.name list.modifier.key) :=
  .inl ⟨list.modifier, rfl⟩

/-- A field has the characters of the first entry with the name of the list. -/
theorem given_of_ofMap (made : Field.ofMap field map = .ok result) :
    list.given result.modifiers =
      (map.get? list.modifier.key).bind OptionValue.characters? := by
  obtain ⟨-, -, modifiers, -⟩ := Field.parts_of_ofMap made
  rw [modifiers]
  cases list <;> rfl

/-- The entry that the name of a type at a position becomes. -/
def typeEntry (fieldType : FieldType) (position : Nat) : OptionKey × OptionValue :=
  (.index position, .text fieldType.name)

/-- A type and one entry besides, in either order. -/
def Beside (fieldType : FieldType) (entry : OptionKey × OptionValue) (map : OptionMap) : Prop :=
  map = [typeEntry fieldType 0, entry] ∨ map = [entry, typeEntry fieldType 1]

/-- A type and a named entry stand beside each other in normal form, in the order they are given. -/
theorem beside_normalize {key : String} {value : OptionValue} {entries : List OptionEntry}
    (either : entries = [.positional (.text fieldType.name), .keyed key value] ∨
      entries = [.keyed key value, .positional (.text fieldType.name)]) :
    Beside fieldType (OptionMap.entryOf (.name key) value)
      (FieldOption.list entries).normalize.entries := by
  have kept (position : Nat) :
      FieldOption.normalizeEntry position (.positional (.text fieldType.name)) =
        typeEntry fieldType position :=
    OptionMap.entryOf_of_plain (.index position) (plain_typeName fieldType)
  rcases either with rfl | rfl
  · left
    change [FieldOption.normalizeEntry 0 _, FieldOption.normalizeEntry 1 _] = _
    rw [kept 0]
    rfl
  · right
    change [FieldOption.normalizeEntry 0 _, FieldOption.normalizeEntry 1 _] = _
    rw [kept 1]
    rfl

theorem Beside.exists_perm {entry : OptionKey × OptionValue}
    (beside : Beside fieldType entry map) :
    ∃ position, map.Perm [typeEntry fieldType position, entry] := by
  rcases beside with rfl | rfl
  · exact ⟨0, .refl _⟩
  · exact ⟨1, .swap ..⟩

/-- Beside a type, a value is found under its own name only. -/
theorem Beside.get?_eq {value : OptionValue}
    (beside : Beside fieldType (.name name, value) map) (key : String) :
    map.get? key = if name = key then some value else none := by
  rcases beside with rfl | rfl <;> by_cases same : name = key <;>
    simp [OptionMap.get?, OptionKey.name?, typeEntry, same]

theorem namesType_typeEntry (fieldType : FieldType) (position : Nat) :
    Field.NamesType (typeEntry fieldType position) := by
  refine ⟨?_, fieldType, rfl⟩
  rintro (⟨_, same⟩ | ⟨_, same⟩) <;> cases same

/-- A type and a list of characters make a field. -/
theorem accepts_of_beside
    (beside : Beside fieldType (.name list.modifier.key, .text text) map) : Field.Accepts map := by
  obtain ⟨position, perm⟩ := beside.exists_perm
  have named {key : String} {value : OptionValue} (member : (.name key, value) ∈ map) :
      key = list.modifier.key ∧ value = .text text := by
    simpa [typeEntry] using perm.mem_iff.mp member
  refine ⟨?_, ⟨fun modifier => ?_, ?_⟩, ⟨fun parameter => ?_, ?_⟩⟩
  · have typed := namesType_typeEntry fieldType position
    have reserved : ¬Field.NamesType (.name list.modifier.key, .text text) :=
      fun names => names.1 list.reserved_key
    rw [perm.countP_eq, List.countP_cons_of_pos (by simpa using typed),
      List.countP_cons_of_neg (by simpa using reserved), List.countP_nil]
  · rw [perm.countP_eq, List.countP_cons_of_neg (by simp [typeEntry])]
    exact List.countP_le_length
  · intro modifier value member
    obtain ⟨same, rfl⟩ := named member
    rw [Modifier.key_injective same]
    cases list <;> exact ⟨_, rfl⟩
  · have other : ¬Field.Gives parameter (.name list.modifier.key, .text text) := by
      rintro (same | ⟨_, same⟩)
      · exact list.key_ne_parameterName parameter (OptionKey.name.inj same)
      · cases same
    rw [(perm.trans (.swap ..)).countP_eq, List.countP_cons_of_neg (by simpa using other)]
    exact List.countP_le_length
  · intro parameter value member
    exact (list.key_ne_parameterName parameter (named member).1.symm).elim

/-- A field of a type and a list of characters has that type and those characters. -/
theorem exists_resolve_of_beside {option : Normalized}
    (beside : Beside fieldType (.name list.modifier.key, .text text) option.entries) :
    ∃ result, Field.resolve record field option = .ok result ∧ result.type = fieldType ∧
      list.given result.modifiers = some (text.toList.map String.singleton) := by
  obtain ⟨result, made⟩ : ∃ result, Field.ofMap field option.entries = .ok result :=
    Field.exists_ofMap_iff.mpr (accepts_of_beside beside)
  refine ⟨result, Field.resolve_eq_ok_iff.mpr made, ?_, ?_⟩
  · obtain ⟨position, perm⟩ := beside.exists_perm
    obtain ⟨-, ⟨entry, member, names, value⟩, -⟩ := Field.parts_of_ofMap made
    have first : entry = typeEntry fieldType position := by
      rcases List.mem_cons.mp (perm.mem_iff.mp member) with first | second
      · exact first
      · exact (names.1 (List.mem_singleton.mp second ▸ list.reserved_key)).elim
    rw [first] at value
    exact (FieldType.name_injective (OptionValue.text.inj value)).symm
  · rw [given_of_ofMap made, beside.get?_eq, if_pos rfl]
    rfl

/-! ## In both places -/

/-- **What becomes of separators.** A list of one text never keeps a declaration from being
assembled, and a field of a type and such a list resolves, where the text has no colon: both mean
the characters of the text, in order. A text with a colon is the entry named by what stands before
the first one. The setting then means the characters behind it. A field then has the list only if
the entry is named like the list, and it has the characters behind the colon. -/
theorem characters_kept (list : CharacterList) (text : String) :
    (∀ (type : RecordType) (declaration : Declaration), type.declared = .ok declaration →
      (list.setting.name, .list [.positional (.text text)]) ∈ declaration.entries →
      ((∃ schema, assemble type = .ok schema) ↔
        ∃ fields,
          Schema.Resolves type.name (Schema.fieldEntries (type.normalized declaration)) fields ∧
          ∀ entry ∈ Schema.settingEntries (type.normalized declaration),
            entry.1 ≠ list.setting →
            ∃ value, entry.1.read type.name (Schema.typeOf? fields) entry.2 = .ok value) ∧
      ∀ schema, assemble type = .ok schema →
        (':' ∉ text.toList →
          (list.setting, .characters (text.toList.map String.singleton)) ∈ schema.settings) ∧
        ∀ name rest : String, ':' ∉ name.toList → text = name ++ ":" ++ rest →
          (list.setting, .characters (rest.toList.map String.singleton)) ∈ schema.settings) ∧
    ∀ (record field : String) (fieldType : FieldType) (entries : List OptionEntry),
      (entries = [.positional (.text fieldType.name), .keyed list.modifier.key (.text text)] ∨
        entries = [.keyed list.modifier.key (.text text), .positional (.text fieldType.name)]) →
      (':' ∉ text.toList →
        ∃ result, Field.resolve record field (FieldOption.list entries).normalize = .ok result ∧
          result.type = fieldType ∧
          list.given result.modifiers = some (text.toList.map String.singleton)) ∧
      ∀ name rest : String, ':' ∉ name.toList → text = name ++ ":" ++ rest →
        (name = list.modifier.key → ∃ result,
          Field.resolve record field (FieldOption.list entries).normalize = .ok result) ∧
        ∀ result, Field.resolve record field (FieldOption.list entries).normalize = .ok result →
          list.given result.modifiers =
            if name = list.modifier.key then some (rest.toList.map String.singleton)
            else none := by
  constructor
  · intro type declaration declared member
    refine ⟨exists_assemble_single_iff declared member, ?_⟩
    intro schema assembled
    constructor
    · intro plain
      have values := settingValues_single_of_plain plain
      exact mem_settings_of_assemble declared member values assembled
    · rintro name rest plain rfl
      have values := settingValues_single_colon plain rest
      exact mem_settings_of_assemble declared member values assembled
  · intro record field fieldType entries either
    have normal := beside_normalize either
    constructor
    · intro plain
      rw [OptionMap.entryOf_of_plain _ plain] at normal
      exact exists_resolve_of_beside normal
    · rintro name rest plain rfl
      rw [OptionMap.entryOf_colon _ plain] at normal
      refine ⟨?_, ?_⟩
      · rintro rfl
        obtain ⟨result, resolved, -⟩ := exists_resolve_of_beside normal
        exact ⟨result, resolved⟩
      · intro result resolved
        have made : Field.ofMap field _ = .ok result := Field.resolve_eq_ok_iff.mp resolved
        rw [given_of_ofMap made, normal.get?_eq]
        split <;> rfl

/-- A ledger whose words are to be cut at the given characters. -/
def ledger (separators : String) : RecordType where
  name := "Ledger"
  declared := .ok (.ofList [("entry", .tokens "string"),
    ("token_separators", .list [.positional (.text separators)])])

/-- The same characters for the entries of a ledger alone. -/
def entryOption (separators : String) : FieldOption :=
  .list [.positional (.text "string"), .keyed "token_separators" (.text separators)]

/-- A hyphen and a slash are kept as they are by a collection and by a field. -/
theorem characters_kept_hyphen :
    (∃ schema, assemble (ledger "-/") = .ok schema ∧
      (.tokenSeparators, .characters ["-", "/"]) ∈ schema.settings) ∧
    ∃ result, Field.resolve "Ledger" "entry" (entryOption "-/").normalize = .ok result ∧
      result.modifiers.tokenSeparators = some ["-", "/"] := by
  obtain ⟨settings, fields⟩ := characters_kept .tokenSeparators "-/"
  obtain ⟨schema, assembled⟩ : ∃ schema, assemble (ledger "-/") = .ok schema :=
    exists_eq_ok_of_isOk (by decide)
  obtain ⟨-, read⟩ := settings (ledger "-/") _ rfl (List.mem_cons_of_mem _ List.mem_cons_self)
  obtain ⟨kept, -⟩ := read schema assembled
  obtain ⟨modifier, -⟩ := fields "Ledger" "entry" .string _ (.inl rfl)
  obtain ⟨result, resolved, -, given⟩ := modifier (by decide)
  exact ⟨⟨schema, assembled, kept (by decide)⟩, result, resolved, given⟩

/-- A colon is no separator: it is taken for an entry without a name and a value. -/
theorem colon_dropped :
    (∃ schema, assemble (ledger ":") = .ok schema ∧
      schema.settings = [(.tokenSeparators, .characters [])]) ∧
    ∃ result, Field.resolve "Ledger" "entry" (entryOption ":").normalize = .ok result ∧
      result.modifiers.tokenSeparators = none := by
  have settings : (assemble (ledger ":")).map Schema.settings =
      .ok [(.tokenSeparators, .characters [])] := rfl
  obtain ⟨schema, assembled⟩ : ∃ schema, assemble (ledger ":") = .ok schema :=
    exists_eq_ok_of_isOk (by decide)
  rw [assembled] at settings
  refine ⟨⟨schema, assembled, Except.ok.inj settings⟩, ?_⟩
  exact ⟨⟨"entry", .string, .default "entry", []⟩, rfl, rfl⟩

end CharacterList

end SearchCollection
