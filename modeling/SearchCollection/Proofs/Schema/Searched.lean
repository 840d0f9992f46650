import SearchCollection.Proofs.Field.Descriptor
import SearchCollection.Proofs.Keys
import SearchCollection.Proofs.Options.Tokens
import SearchCollection.Proofs.Schema.Added
import SearchCollection.Schema.QueryBy

/-! # The query fields of a declaration

Whether a field is searched by default shows in the entries of its option
(`FieldOption.MakesSearchable`): one is the bare word, or gives the word a value that
is read as true. The fields that assembly adds are not searched. So the list of query
fields is the declared names of the fields whose options say so, as long as these can
all be queried (`queryBy_searched`).
-/

namespace SearchCollection

/-! ## Entries that make a field searchable -/

namespace OptionEntry

/-- The entry gives a name a value: its key and its value, or the two parts of a text around its
first colon. -/
inductive Names : OptionEntry → String → OptionValue → Prop
  | key {name : String} {value : OptionValue}
      (whole : ∀ text, value = .text text → ':' ∉ text.toList) :
      Names (.keyed name value) name value
  | token {name : String} (plain : ':' ∉ name.toList) (rest : String) :
      Names (.positional (.text (name ++ ":" ++ rest))) name (.text rest)
  | underKey (key : String) {name : String} (plain : ':' ∉ name.toList) (rest : String) :
      Names (.keyed key (.text (name ++ ":" ++ rest))) name (.text rest)

/-- The entry says that its field is searched by default. -/
def MakesSearchable (entry : OptionEntry) : Prop :=
  entry = .positional (.text "searchable") ∨
    ∃ value, entry.Names "searchable" value ∧ value.boolean? = some true

end OptionEntry

namespace OptionMap

variable {key : OptionKey} {value result : OptionValue} {name : String}

/-- The entry of a value is the value under the key, or else the parts of a text with a colon. -/
theorem entryOf_eq_iff {found : OptionKey} :
    entryOf key value = (found, result) ↔
      (∀ text, value = .text text → ':' ∉ text.toList) ∧ key = found ∧ value = result ∨
      ∃ name rest : String, ':' ∉ name.toList ∧ value = .text (name ++ ":" ++ rest) ∧
        found = .name name ∧ result = .text rest := by
  have colon (name rest : String) : ':' ∈ (name ++ ":" ++ rest).toList := by
    rw [toList_colon]
    exact List.mem_append_right _ List.mem_cons_self
  constructor
  · intro same
    cases value with
    | text token =>
        rcases plain_or_colon token with plain | ⟨name, rest, plain, rfl⟩
        · rw [entryOf_of_plain key plain] at same
          obtain ⟨rfl, rfl⟩ := Prod.mk.inj same
          exact .inl ⟨fun text equal => OptionValue.text.inj equal ▸ plain, rfl, rfl⟩
        · rw [entryOf_colon key plain] at same
          obtain ⟨rfl, rfl⟩ := Prod.mk.inj same
          exact .inr ⟨name, rest, plain, rfl, rfl, rfl⟩
    | _ =>
        obtain ⟨rfl, rfl⟩ := Prod.mk.inj same
        exact .inl ⟨nofun, rfl, rfl⟩
  · rintro (⟨whole, rfl, rfl⟩ | ⟨name, rest, plain, rfl, rfl, rfl⟩)
    · cases value with
      | text token => exact entryOf_of_plain key (whole token rfl)
      | _ => rfl
    · exact entryOf_colon key plain rest

end OptionMap

namespace OptionEntry

variable {entry : OptionEntry} {name : String} {value : OptionValue}

/-- A normal entry is named as the declared one names it. -/
theorem normalizeEntry_eq_name_iff (position : Nat) :
    FieldOption.normalizeEntry position entry = (.name name, value) ↔ entry.Names name value := by
  constructor
  · intro normal
    cases entry with
    | positional given =>
        rcases OptionMap.entryOf_eq_iff.mp normal with
          ⟨-, same, -⟩ | ⟨name, rest, plain, rfl, same, rfl⟩
        · cases same
        · cases same
          exact .token plain rest
    | keyed key given =>
        rcases OptionMap.entryOf_eq_iff.mp normal with
          ⟨whole, same, rfl⟩ | ⟨name, rest, plain, rfl, same, rfl⟩
        · cases same
          exact .key whole
        · cases same
          exact .underKey key plain rest
  · intro names
    cases names with
    | key whole => exact OptionMap.entryOf_eq_iff.mpr (.inl ⟨whole, rfl, rfl⟩)
    | token plain rest => exact OptionMap.entryOf_colon _ plain rest
    | underKey key plain rest => exact OptionMap.entryOf_colon _ plain rest

/-- A normal entry stays without a name exactly when the declared one has no key and no colon. -/
theorem normalizeEntry_eq_index_iff {position found : Nat} :
    FieldOption.normalizeEntry position entry = (.index found, value) ↔
      entry = .positional value ∧ found = position ∧
        ∀ text, value = .text text → ':' ∉ text.toList := by
  constructor
  · intro normal
    cases entry with
    | positional given =>
        rcases OptionMap.entryOf_eq_iff.mp normal with ⟨whole, same, rfl⟩ | ⟨_, _, _, _, same, _⟩
        · exact ⟨rfl, (OptionKey.index.inj same).symm, whole⟩
        · cases same
    | keyed key given =>
        rcases OptionMap.entryOf_eq_iff.mp normal with ⟨_, same, _⟩ | ⟨_, _, _, _, same, _⟩ <;>
          cases same
  · rintro ⟨rfl, rfl, whole⟩
    exact OptionMap.entryOf_eq_iff.mpr (.inl ⟨whole, rfl, rfl⟩)

end OptionEntry

namespace OptionEntry

/-- An entry says so exactly when its normal form switches the parameter on. -/
theorem makesSearchable_iff (position : Nat) {entry : OptionEntry} :
    entry.MakesSearchable ↔
      Field.switchGiven? (FieldOption.normalizeEntry position entry) =
        some (.searchable, true) := by
  rw [Field.switchGiven?_eq_some_iff, MakesSearchable, or_comm]
  refine or_congr ?_ ?_
  · constructor
    · rintro ⟨value, names, read⟩
      rw [(normalizeEntry_eq_name_iff position).mpr names]
      exact ⟨rfl, read⟩
    · rintro ⟨named, read⟩
      exact ⟨_, (normalizeEntry_eq_name_iff position).mp (Prod.ext named rfl), read⟩
  · simp only [normalizeEntry_eq_index_iff, and_true]
    constructor
    · rintro rfl
      refine ⟨position, rfl, rfl, ?_⟩
      rintro text same
      cases same
      decide
    · rintro ⟨_, rfl, -⟩
      rfl

instance : DecidablePred MakesSearchable := fun _ =>
  decidable_of_iff _ (makesSearchable_iff 0).symm

end OptionEntry

namespace FieldOption

/-- Some entry of the option says that the field is searched by default. -/
def MakesSearchable (option : FieldOption) : Prop :=
  ∃ entry ∈ option.entries, entry.MakesSearchable

instance : DecidablePred MakesSearchable := fun option =>
  inferInstanceAs (Decidable (∃ entry ∈ option.entries, entry.MakesSearchable))

/-- Some entry makes a field searchable exactly when one switches searching on in normal form. -/
theorem mem_switches_iff {entries : List OptionEntry} :
    (∃ entry ∈ entries, entry.MakesSearchable) ↔
      (.searchable, true) ∈ (entries.mapIdx normalizeEntry).filterMap Field.switchGiven? := by
  simp only [List.mem_filterMap, List.mem_mapIdx]
  constructor
  · rintro ⟨entry, member, makes⟩
    obtain ⟨position, bound, rfl⟩ := List.getElem_of_mem member
    exact ⟨_, ⟨position, bound, rfl⟩, (OptionEntry.makesSearchable_iff position).mp makes⟩
  · rintro ⟨_, ⟨position, bound, rfl⟩, switched⟩
    exact ⟨_, List.getElem_mem bound, (OptionEntry.makesSearchable_iff position).mpr switched⟩

/-- An option makes its field searchable exactly when its normal form switches searching on. -/
theorem makesSearchable_iff {option : FieldOption} :
    option.MakesSearchable ↔
      (.searchable, true) ∈ option.normalize.entries.filterMap Field.switchGiven? := by
  cases option with
  | flag value => simp [MakesSearchable, entries, normalize, Normalized.entries,
      OptionEntry.makesSearchable_iff 0, normalizeEntry, OptionMap.entryOf, Field.switchGiven?]
  | tokens text => exact mem_switches_iff
  | list entries => exact mem_switches_iff

end FieldOption

/-! ## Fields that are searched by default -/

namespace Field

variable {record name : String} {option : FieldOption} {field : Field}

/-- A field is searched by default exactly when its option says so. -/
theorem isSearchable_iff (resolves : resolve record name option.normalize = .ok field) :
    field.isSearchable = true ↔ option.MakesSearchable := by
  have made := resolve_eq_ok_iff.mp resolves
  obtain ⟨-, -, -, parameters⟩ := parts_of_ofMap made
  have given : field.parameter? .searchable = some true ↔
      (.searchable, true) ∈ field.parameters := by
    rw [parameter?, Option.map_eq_some_iff]
    simp only [find?_key_eq_some_iff (nodup_parameters_of_ofMap made)]
    constructor
    · rintro ⟨entry, ⟨member, named⟩, switch⟩
      rwa [← named, ← switch]
    · exact fun member => ⟨_, ⟨member, rfl⟩, rfl⟩
  rw [FieldOption.makesSearchable_iff, ← parameters, ← given, isSearchable]
  cases field.parameter? .searchable <;> simp

end Field

/-- The type may stand in the default list of query fields. -/
def FieldType.Queryable (type : FieldType) : Prop :=
  type ∈ [.string, .stringArray, .stringAuto, .object, .objectArray]

instance : DecidablePred FieldType.Queryable := fun type =>
  inferInstanceAs
    (Decidable (type ∈ [.string, .stringArray, .stringAuto, .object, .objectArray]))

/-- Exactly the types that can be queried pass the test for them. -/
theorem FieldType.isQueryable_iff {type : FieldType} :
    type.isQueryable = true ↔ type.Queryable := by
  cases type <;> simp [isQueryable, Queryable]

namespace Schema

variable {record : String} {field : Field}

/-- The declared name of a field that can be queried. -/
def queryName (record : String) (field : Field) : Except Fault String :=
  ((field.type.checkQueryable field.declaredName).mapError (.declaration record)).map
    fun _ => field.declaredName

theorem queryNames_eq_mapM (record : String) (fields : List Field) :
    queryNames record fields = (fields.filter Field.isSearchable).mapM (queryName record) := by
  induction fields with
  | nil => rfl
  | cons field rest ih =>
      rw [queryNames, ih]
      cases searchable : field.isSearchable with
      | false => rw [List.filter_cons_of_neg (by simp [searchable])]; rfl
      | true =>
          rw [List.filter_cons_of_pos searchable, List.mapM_cons, queryName]
          cases (field.type.checkQueryable field.declaredName) <;> rfl

/-- The field can be queried, under its declared name. -/
def Queried (field : Field) (name : String) : Prop :=
  field.type.Queryable ∧ name = field.declaredName

/-- The field of the record type cannot be queried, which is the fault. -/
def Unqueried (record : String) (field : Field) (fault : Fault) : Prop :=
  ¬field.type.Queryable ∧
    fault = .declaration record (.typeNotQueryable field.declaredName field.type)

/-- A field is listed under its declared name when it can be queried, and is at fault otherwise. -/
theorem answers_queryName :
    Answers (queryName record field) (Queried field) (Unqueried record field) := by
  unfold queryName FieldType.checkQueryable
  by_cases queryable : field.type.Queryable
  · rw [if_pos (FieldType.isQueryable_iff.mpr queryable)]
    exact .of_ok ⟨queryable, rfl⟩ (fun _ right => right.2) (fun _ wrong => wrong.1 queryable)
  · rw [if_neg (mt FieldType.isQueryable_iff.mp queryable)]
    exact .of_error ⟨queryable, rfl⟩ (fun _ wrong => wrong.2) (fun _ right => queryable right.1)

/-- Fields can all be queried exactly when their types can, and then under their declared names. -/
theorem forall₂_queried_iff {fields : List Field} {names : List String} :
    List.Forall₂ Queried fields names ↔
      (∀ field ∈ fields, field.type.Queryable) ∧ names = fields.map Field.declaredName := by
  unfold Queried
  rw [List.forall₂_and_left]
  refine and_congr_right fun _ => ?_
  have named : List.Forall₂ (· = ·) (fields.map Field.declaredName) names ↔
      fields.map Field.declaredName = names := by rw [List.forall₂_eq_eq_eq]
  rw [eq_comm, ← named, List.forall₂_map_left_iff]
  simp only [eq_comm]

/-- The fields that are searched by default. -/
def searchedFields (schema : Schema) : List Field :=
  schema.fields.filter Field.isSearchable

/-- The list has the declared names of the searched fields, as long as they can all be queried, and
the first that cannot is at fault. -/
theorem answers_queryBy (schema : Schema) :
    Answers schema.queryBy
      (fun list => (∀ field ∈ schema.searchedFields, field.type.Queryable) ∧
        list = ",".intercalate (schema.searchedFields.map Field.declaredName))
      (fun fault => ∃ before field after, schema.searchedFields = before ++ field :: after ∧
        (∀ earlier ∈ before, earlier.type.Queryable) ∧ Unqueried schema.record field fault) := by
  have names : Answers (schema.searchedFields.mapM (queryName schema.record))
      (List.Forall₂ Queried schema.searchedFields)
      (FirstBad Queried (Unqueried schema.record) schema.searchedFields) :=
    .mapM fun _ _ => answers_queryName
  have queryBy : schema.queryBy =
      (schema.searchedFields.mapM (queryName schema.record)).map (",".intercalate ·) := by
    rw [Schema.queryBy, queryNames_eq_mapM, searchedFields]
    cases (schema.fields.filter Field.isSearchable).mapM (queryName schema.record) <;> rfl
  rw [queryBy]
  refine (names.map _).congr (fun list => ?_) (fun fault => ?_)
  · simp only [forall₂_queried_iff]
    constructor
    · rintro ⟨_, ⟨queryable, rfl⟩, rfl⟩
      exact ⟨queryable, rfl⟩
    · rintro ⟨queryable, rfl⟩
      exact ⟨_, ⟨queryable, rfl⟩, rfl⟩
  · generalize schema.searchedFields = searched
    constructor
    · rintro @⟨before, after, field, _, fine, fails⟩
      refine ⟨before, field, after, rfl, fun earlier member => ?_, fails⟩
      obtain ⟨name, queried⟩ := fine earlier member
      exact queried.1
    · rintro ⟨before, field, after, split, fine, fails⟩
      rw [split]
      exact .intro (fun earlier member => ⟨_, fine earlier member, rfl⟩) fails

end Schema

namespace Declaration

/-- The entries that declare fields which are searched by default. -/
def searched (declaration : Declaration) : List (String × FieldOption) :=
  declaration.entries.filter fun entry => ¬Setting.Named entry.1 ∧ entry.2.MakesSearchable

end Declaration

variable {type : RecordType} {declaration : Declaration} {schema : Schema}

/-- The searched fields are those of the entries that say so, in order. The fields that assembly
adds are not among them. -/
theorem resolves_searched (declared : type.declared = .ok declaration)
    (assembled : assemble type = .ok schema) :
    Schema.Resolves type.name (declaration.searched.map fun entry => (entry.1, entry.2.normalize))
      schema.searchedFields := by
  obtain ⟨own, fields, resolves⟩ := exists_fields_eq_append declared assembled
  have added {entries : List (String × FieldOption)} (fieldOf : String → Field)
      (unsearched : ∀ name, ¬(fieldOf name).isSearchable) :
      (entries.map fun entry => fieldOf entry.1).filter Field.isSearchable = [] := by
    refine List.filter_eq_nil_iff.mpr fun field member => ?_
    obtain ⟨entry, -, rfl⟩ := List.mem_map.mp member
    exact unsearched entry.1
  have searched : schema.searchedFields = own.filter Field.isSearchable := by
    rw [Schema.searchedFields, fields, List.filter_append, List.filter_append, RecordType.keyFields,
      RecordType.deletionFields, added Schema.primaryKeyField fun _ => Bool.false_ne_true,
      added Schema.deletionField fun _ => Bool.false_ne_true, List.append_nil, List.append_nil]
  have entries : declaration.searched =
      (declaration.entries.filter fun entry => ¬Setting.Named entry.1).filter
        fun entry => entry.2.MakesSearchable := by
    rw [Declaration.searched, List.filter_filter]
    simp only [Bool.decide_and, Bool.and_comm]
  rw [Schema.fieldEntries_eq_filter, List.filter_map, Schema.Resolves, List.forall₂_map_left_iff]
    at resolves
  rw [searched, entries, Schema.Resolves, List.forall₂_map_left_iff]
  refine List.rel_filter (fun entry field resolved => ?_) resolves
  exact decide_eq_true_iff.trans (Field.isSearchable_iff resolved).symm

/-- **The query fields follow from the declaration.** The entries of the declaration that make a
field searchable declare fields of the schema. There is a list of query fields exactly when the
types of these fields can all be queried, and it has their declared names in order. Otherwise the
first of them that cannot be queried is at fault, whatever comes behind it. -/
theorem queryBy_searched (declared : type.declared = .ok declaration)
    (assembled : assemble type = .ok schema) :
    ∃ fields, fields.Sublist schema.fields ∧
      Schema.Resolves type.name
        (declaration.searched.map fun entry => (entry.1, entry.2.normalize)) fields ∧
      ((∃ list, schema.queryBy = .ok list) ↔ ∀ field ∈ fields, field.type.Queryable) ∧
      (∀ list, schema.queryBy = .ok list →
        list = ",".intercalate (declaration.searched.map Prod.fst)) ∧
      ∀ fault, schema.queryBy = .error fault ↔
        ∃ before field after, fields = before ++ field :: after ∧
          (∀ earlier ∈ before, earlier.type.Queryable) ∧ ¬field.type.Queryable ∧
          fault = .declaration type.name (.typeNotQueryable field.declaredName field.type) := by
  have resolves := resolves_searched declared assembled
  have answers := schema.answers_queryBy
  obtain ⟨record, -⟩ := (assemble_eq_ok_iff declared).mp assembled
  have names :
      schema.searchedFields.map Field.declaredName = declaration.searched.map Prod.fst := by
    rw [resolves.map_declaredName, List.map_map]
    rfl
  refine ⟨schema.searchedFields, List.filter_sublist, resolves, ?_, ?_, ?_⟩
  · rw [answers.exists_ok_iff]
    simp
  · intro list queried
    rw [← names]
    exact ((answers.ok_iff list).mp queried).2
  · intro fault
    rw [← record]
    exact answers.error_iff fault

/-- Pages with a number of views. -/
def pageDeclaration (views : FieldOption) : Declaration :=
  .ofList [("title", .tokens "string|name:headline|searchable"),
    ("notes", .tokens "object|searchable:no"),
    ("tags", .list [.positional (.text "string[]"), .keyed "searchable" (.text " Yes ")]),
    ("views", views)]

def page (views : FieldOption) : RecordType where
  name := "Page"
  declared := .ok (pageDeclaration views)

/-- The title and the tags of a page. -/
def pageFields : List Field :=
  [⟨"title", .string, { Modifiers.default "title" with name := some "headline" },
      [(.searchable, true)]⟩,
    ⟨"tags", .stringArray, .default "tags", [(.searchable, true)]⟩]

/-- Pages are searched by title and tags. Their views cannot be queried. -/
theorem queryBy_searched_page :
    (∃ schema, assemble (page (.tokens "int32")) = .ok schema ∧
      schema.queryBy = .ok "title,tags") ∧
    ∃ schema, assemble (page (.tokens "int32|searchable")) = .ok schema ∧
      schema.queryBy = .error (.declaration "Page" (.typeNotQueryable "views" .int32)) := by
  constructor
  · obtain ⟨schema, assembled⟩ : ∃ schema, assemble (page (.tokens "int32")) = .ok schema :=
      exists_eq_ok_of_isOk (by decide)
    obtain ⟨fields, -, resolves, succeeds, listed, -⟩ := queryBy_searched rfl assembled
    have found := Schema.resolveFields_eq_ok_iff.mpr resolves
    have same : fields = pageFields := Except.ok.inj (found.symm.trans rfl)
    have queryable : ∀ field ∈ fields, field.type.Queryable := by
      rw [same]
      decide
    obtain ⟨list, queried⟩ := succeeds.mpr queryable
    have names : list = "title,tags" := listed list queried
    exact ⟨schema, assembled, names ▸ queried⟩
  · obtain ⟨schema, assembled⟩ :
        ∃ schema, assemble (page (.tokens "int32|searchable")) = .ok schema :=
      exists_eq_ok_of_isOk (by decide)
    obtain ⟨fields, -, resolves, -, -, fails⟩ := queryBy_searched rfl assembled
    have found := Schema.resolveFields_eq_ok_iff.mpr resolves
    have same : fields =
        pageFields ++ [⟨"views", .int32, .default "views", [(.searchable, true)]⟩] :=
      Except.ok.inj (found.symm.trans rfl)
    refine ⟨schema, assembled, (fails _).mpr ⟨pageFields, _, [], same, ?_, ?_, rfl⟩⟩ <;> decide

end SearchCollection
