import SearchCollection.Proofs.Keys
import SearchCollection.Proofs.Schema.Assembled
import SearchCollection.Proofs.Text.Trimmed

/-! # The default sorting field

The values of the setting's option name a field when they are one text, or one list
of one text, that is trimmed to a name (`Setting.SortsBy`). The setting is read
exactly from the values that name a field of a type that can be sorted by, and
otherwise it has one fault (`Setting.SortingFault`). So the default sorting field of
an assembled schema is a field of the schema (`default_sorting`).
-/

namespace SearchCollection

/-- A text that can name a sorting field: not empty, without commas, and with no blank at either
end. -/
structure SortingName (name : String) : Prop where
  nonempty : name ≠ ""
  noComma : ',' ∉ name.toList
  trimmed : Text.Trimmed name.toList

/-- The type can be sorted by. -/
def FieldType.Sortable (type : FieldType) : Prop :=
  type = .int32 ∨ type = .float

instance : DecidablePred FieldType.Sortable :=
  fun type => inferInstanceAs (Decidable (type = .int32 ∨ type = .float))

/-- Exactly the types that can be sorted by pass the test for them. -/
theorem FieldType.isSortable_iff {type : FieldType} : type.isSortable = true ↔ type.Sortable := by
  cases type <;> decide

/-- The fault is one of the field that documents are to be sorted by. -/
inductive DeclarationFault.ConcernsSorting : DeclarationFault → Prop
  | notDeclared (name : String) : ConcernsSorting (.sortingFieldNotDeclared name)
  | notSortable (name : String) (type : FieldType) :
      ConcernsSorting (.sortingFieldNotSortable name type)

namespace Setting

/-- The values are one text, alone or in a list of its own, that is trimmed to the name of a
sorting field. -/
structure SortsBy (values : List OptionValue) (name : String) : Prop extends SortingName name where
  given : ∃ text, (values = [.text text] ∨ values = [.list [.text text]]) ∧ Text.TrimsTo text name

section Values

variable {values : List OptionValue} {name : String} {typeOf? : String → Option FieldType}
  {cause : DeclarationFault}

/-- The values that have a text before it is trimmed. The empty text also stands for a list of one
value that is no text. -/
theorem sortingText?_eq_some_iff {text : String} :
    sortingText? values = some text ↔
      values = [.text text] ∨ ∃ item, values = [.list [item]] ∧ item.text?.getD "" = text := by
  unfold sortingText?
  split
  · simp
  · simp
  · next notText notList =>
      refine iff_of_false nofun ?_
      rintro (rfl | ⟨item, rfl, -⟩)
      · exact notText _ rfl
      · exact notList _ rfl

/-- The field to sort by is found exactly when the values name it. -/
theorem sortingField_eq_ok_iff : sortingField values = .ok name ↔ SortsBy values name := by
  constructor
  · intro read
    unfold sortingField at read
    split at read
    · next text found =>
        dsimp only at read
        split at read
        · cases read
        · next fine =>
            obtain rfl := Except.ok.inj read
            simp only [Bool.or_eq_true, decide_eq_true_eq, List.contains_iff_mem, not_or] at fine
            have trims : Text.TrimsTo text (Text.trim text) := Text.trim_eq_iff.mp rfl
            refine ⟨⟨fine.1, fine.2, trims.1⟩, text, ?_, trims⟩
            rcases sortingText?_eq_some_iff.mp found with alone | ⟨item, listed, held⟩
            · exact .inl alone
            · cases item with
              | text word => exact .inr (held ▸ listed)
              | _ => exact (fine.1 (held ▸ rfl)).elim
    · cases read
  · rintro ⟨⟨nonempty, noComma, -⟩, text, alone, trims⟩
    have found : sortingText? values = some text := by
      rcases alone with rfl | rfl <;> rfl
    have trimmed : Text.trim text = name := Text.trim_eq_iff.mpr trims
    simp [sortingField, found, trimmed, nonempty, noComma]

/-- No field to sort by is found exactly when the values name none. -/
theorem sortingField_eq_error_iff :
    sortingField values = .error cause ↔
      cause = .sortingNotOneField ∧ ∀ name, ¬SortsBy values name := by
  have only : sortingField values = .error .sortingNotOneField ∨
      ∃ name, sortingField values = .ok name := by
    unfold sortingField
    split
    · dsimp only
      split
      · exact .inl rfl
      · exact .inr ⟨_, rfl⟩
    · exact .inl rfl
  simp only [← sortingField_eq_ok_iff]
  rcases only with failed | ⟨name, read⟩
  · simp [failed, eq_comm]
  · simp [read]

/-- Values name one sorting field at most. -/
theorem SortsBy.unique {other : String} (sorts : SortsBy values name)
    (alsoSorts : SortsBy values other) : name = other := by
  rw [← sortingField_eq_ok_iff] at sorts alsoSorts
  exact Except.ok.inj (sorts.symm.trans alsoSorts)

/-- Values that name no field to sort by are at fault. -/
theorem readValues_sorting_of_unnamed (unnamed : ∀ name, ¬SortsBy values name) :
    readValues .defaultSortingField typeOf? values = .error .sortingNotOneField := by
  rw [readValues, sortingField_eq_error_iff.mpr ⟨rfl, unnamed⟩]
  rfl

/-- Once the values name a field, its type decides. -/
theorem readValues_sorting_of_sortsBy (sorts : SortsBy values name) :
    readValues .defaultSortingField typeOf? values =
      match typeOf? name with
      | none => .error (.sortingFieldNotDeclared name)
      | some type =>
          if type.Sortable then .ok (.field name)
          else .error (.sortingFieldNotSortable name type) := by
  simp only [readValues, sortingField_eq_ok_iff.mpr sorts, bind, Except.bind]
  cases typeOf? name with
  | none => rfl
  | some type =>
      simp only [FieldType.checkSortable, FieldType.isSortable_iff]
      by_cases suited : type.Sortable
      · rw [if_pos suited, if_pos suited]
        rfl
      · rw [if_neg suited, if_neg suited]

/-- A default sorting field is read exactly from values that name a field of a type that can be
sorted by, and its value is that name. -/
theorem readValues_sorting_eq_ok_iff {value : SettingValue} :
    readValues .defaultSortingField typeOf? values = .ok value ↔
      ∃ name, value = .field name ∧ SortsBy values name ∧
        ∃ type, typeOf? name = some type ∧ type.Sortable := by
  constructor
  · intro read
    by_cases named : ∃ name, SortsBy values name
    · obtain ⟨name, sorts⟩ := named
      rw [readValues_sorting_of_sortsBy sorts] at read
      split at read
      · cases read
      · next type found =>
          split at read
          · next suited => exact ⟨name, (Except.ok.inj read).symm, sorts, type, found, suited⟩
          · cases read
    · rw [readValues_sorting_of_unnamed (not_exists.mp named)] at read
      cases read
  · rintro ⟨name, rfl, sorts, type, found, suited⟩
    rw [readValues_sorting_of_sortsBy sorts, found]
    exact if_pos suited

/-- A fault of a default sorting field concerns no field but the one that the values name. -/
theorem sortsBy_of_readValues_eq_error
    (failed : readValues .defaultSortingField typeOf? values = .error cause)
    (concerns : cause.field? = some name) :
    cause.ConcernsSorting ∧ SortsBy values name := by
  by_cases named : ∃ name, SortsBy values name
  · obtain ⟨other, sorts⟩ := named
    rw [readValues_sorting_of_sortsBy sorts] at failed
    split at failed
    · cases failed
      exact ⟨.notDeclared other, Option.some.inj concerns ▸ sorts⟩
    · next type _ =>
        split at failed
        · cases failed
        · cases failed
          exact ⟨.notSortable other type, Option.some.inj concerns ▸ sorts⟩
  · rw [readValues_sorting_of_unnamed (not_exists.mp named)] at failed
    cases failed
    cases concerns

end Values

end Setting

variable {type : RecordType} {declaration : Declaration} {fields : List Field}

/-- A name is missing among the fields when every entry of the name is one of a setting. -/
theorem Schema.Resolves.typeOf?_eq_none
    (resolves : Schema.Resolves type.name (Schema.fieldEntries (type.normalized declaration))
      fields)
    {name : String} (undeclared : name ∈ (type.complete declaration).names → Setting.Named name) :
    Schema.typeOf? fields name = none := by
  have absent : name ∉ fields.map Field.declaredName := by
    rw [resolves.map_declaredName]
    intro member
    obtain ⟨entry, entryMember, rfl⟩ := List.mem_map.mp member
    obtain ⟨declares, unnamed⟩ := Schema.mem_fieldEntries.mp entryMember
    apply unnamed (undeclared ?_)
    rw [← type.names_normalized]
    exact List.mem_map_of_mem declares
  rw [Schema.typeOf?, Option.map_eq_none_iff, List.find?_eq_none]
  intro field member same
  exact absent (of_decide_eq_true same ▸ List.mem_map_of_mem member)

/-- **The default sorting field is a field that can be sorted by.** In every assembled schema the
option under the setting's name, however it is written and wherever it stands, gives one setting,
whose value is the name that the option's values are trimmed to. Just one field is declared under
that name, and its type is `int32` or `float`. Where all fields resolve and the settings before
it can be read, an option that names no field so fails for that, and one that names a field which
is not declared, or whose type is another one, fails with that name. -/
theorem default_sorting (type : RecordType) (declaration : Declaration) (option : FieldOption)
    (declared : type.declared = .ok declaration)
    (member : (Setting.defaultSortingField.name, option) ∈ (type.complete declaration).entries) :
    (∀ schema, assemble type = .ok schema →
      ∃ name, Setting.SortsBy option.normalize.settingValues name ∧
        schema.settings.filter (fun entry => entry.1 = .defaultSortingField) =
          [(.defaultSortingField, .field name)] ∧
        ∃ field, schema.fields.filter (fun other => other.declaredName = name) = [field] ∧
          (field.type = .int32 ∨ field.type = .float)) ∧
    ∀ fields before after,
      Schema.Resolves type.name (Schema.fieldEntries (type.normalized declaration)) fields →
      Schema.settingEntries (type.normalized declaration) =
        before ++ (.defaultSortingField, option.normalize) :: after →
      (∀ earlier ∈ before, ∃ value,
        earlier.1.read type.name (Schema.typeOf? fields) earlier.2 = .ok value) →
      ((∀ name, ¬Setting.SortsBy option.normalize.settingValues name) →
        assemble type = .error (.declaration type.name .sortingNotOneField)) ∧
      ∀ name, Setting.SortsBy option.normalize.settingValues name →
        ((name ∈ (type.complete declaration).names → Setting.Named name) →
          assemble type = .error (.declaration type.name (.sortingFieldNotDeclared name))) ∧
        ∀ field ∈ fields, field.declaredName = name → field.type ≠ .int32 → field.type ≠ .float →
          assemble type =
            .error (.declaration type.name (.sortingFieldNotSortable name field.type)) := by
  have nodup := type.nodup_normalized declaration
  have declares : (.defaultSortingField, option.normalize) ∈
      Schema.settingEntries (type.normalized declaration) :=
    Schema.mem_settingEntries.mpr (List.mem_map_of_mem member)
  constructor
  · intro schema assembled
    obtain ⟨-, -, resolves, reads⟩ := (assemble_eq_ok_iff declared).mp assembled
    obtain ⟨value, found, read⟩ := reads.exists_mem declares
    have fieldNodup := resolves.nodup nodup
    have settingNodup : (schema.settings.map Prod.fst).Nodup := by
      rw [reads.map_fst]
      exact Schema.nodup_settingEntries nodup
    obtain ⟨name, rfl, sorts, fieldType, known, suited⟩ :=
      Setting.readValues_sorting_eq_ok_iff.mp (mapError_eq_ok_iff.mp read)
    obtain ⟨field, fieldMember, rfl, rfl⟩ := (Schema.typeOf?_eq_some_iff fieldNodup).mp known
    refine ⟨field.declaredName, sorts, filter_key_eq_of_mem settingNodup found, field, ?_, suited⟩
    exact filter_key_eq_of_mem fieldNodup fieldMember
  · intro fields before after resolves split readable
    -- Up to this setting nothing is at fault, so its fault is the first.
    have fails {cause : DeclarationFault}
        (failed : Setting.readValues .defaultSortingField (Schema.typeOf? fields)
          option.normalize.settingValues = .error cause) :
        assemble type = .error (.declaration type.name cause) := by
      refine (assemble_eq_error_iff declared).mpr (.inr ⟨fields, resolves, ?_⟩)
      refine ⟨before, _, after, split, readable, ?_⟩
      exact mapError_eq_error_iff.mpr ⟨cause, failed, rfl⟩
    refine ⟨fun unnamed => fails (Setting.readValues_sorting_of_unnamed unnamed), ?_⟩
    intro name sorts
    constructor
    · intro undeclared
      apply fails
      rw [Setting.readValues_sorting_of_sortsBy sorts, resolves.typeOf?_eq_none undeclared]
    · rintro field fieldMember rfl notInteger notFloat
      have known : Schema.typeOf? fields field.declaredName = some field.type :=
        (Schema.typeOf?_eq_some_iff (resolves.nodup nodup)).mpr ⟨field, fieldMember, rfl, rfl⟩
      apply fails
      rw [Setting.readValues_sorting_of_sortsBy sorts, known]
      exact if_neg (not_or.mpr ⟨notInteger, notFloat⟩)

/-- Songs that are sorted by what an option says. -/
def songDeclaration (sorting : FieldOption) : Declaration :=
  .ofList [("default_sorting_field", sorting), ("title", .tokens "string"),
    ("rank", .tokens "int32")]

def song (sorting : FieldOption) : RecordType where
  name := "Song"
  declared := .ok (songDeclaration sorting)
  primaryKey := "title"

def songFields : List Field :=
  [⟨"title", .string, .default "title", []⟩, ⟨"rank", .int32, .default "rank", []⟩]

/-- A name in a list of its own and with blanks around it is understood. Two names, the name of a
setting and that of a text are not. -/
theorem default_sorting_song :
    (∃ schema, assemble (song (.list [.positional (.list [.text " rank "])])) = .ok schema ∧
      schema.settings.filter (fun entry => entry.1 = .defaultSortingField) =
        [(.defaultSortingField, .field "rank")]) ∧
    assemble (song (.tokens "rank|title")) = .error (.declaration "Song" .sortingNotOneField) ∧
    assemble (song (.tokens "by:symbols_to_index")) =
      .error (.declaration "Song" (.sortingFieldNotDeclared "symbols_to_index")) ∧
    assemble (song (.tokens "title")) =
      .error (.declaration "Song" (.sortingFieldNotSortable "title" .string)) := by
  have resolves (sorting : FieldOption) : Schema.Resolves "Song"
      (Schema.fieldEntries ((song sorting).normalized (songDeclaration sorting))) songFields :=
    Schema.resolveFields_eq_ok_iff.mp rfl
  have fails (sorting : FieldOption) :=
    (default_sorting (song sorting) (songDeclaration sorting) sorting rfl List.mem_cons_self).2
      songFields [] _ (resolves sorting) rfl (fun _ member => (List.not_mem_nil member).elim)
  refine ⟨?_, ?_, ?_, ?_⟩
  · obtain ⟨schema, assembled⟩ :
        ∃ schema, assemble (song (.list [.positional (.list [.text " rank "])])) = .ok schema :=
      exists_eq_ok_of_isOk (by decide)
    obtain ⟨name, sorts, kept, -⟩ :=
      (default_sorting _ _ _ rfl List.mem_cons_self).1 schema assembled
    have trimmed : name = "rank" := sorts.unique (Setting.sortingField_eq_ok_iff.mp rfl)
    exact ⟨schema, assembled, trimmed ▸ kept⟩
  · exact (fails _).1 (Setting.sortingField_eq_error_iff.mp rfl).2
  · exact ((fails _).2 _ (Setting.sortingField_eq_ok_iff.mp rfl)).1 (fun _ => by decide)
  · exact ((fails _).2 _ (Setting.sortingField_eq_ok_iff.mp rfl)).2 _ List.mem_cons_self rfl
      nofun nofun

end SearchCollection
