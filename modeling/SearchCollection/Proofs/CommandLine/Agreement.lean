import SearchCollection.Proofs.CommandLine.Each
import SearchCollection.Proofs.Registry.Fresh
import SearchCollection.Proofs.Registry.Residue
import SearchCollection.Proofs.Yaml.Steps

/-! # Commands agree on what is at fault

Linting, warming up, listing query fields and compiling judge a declaration alike
(`commands_agree`): linting reports the declarations that cannot be warmed up, each with the
fault that warming up stops at; the query fields are listed exactly when nothing is reported,
and else the first reported fault is the one that stops them.

What warming up says is that of the declaration as long as the registry is fresh for it. That
its schema is not kept is not enough (`galley_warmed`).
-/

namespace SearchCollection

namespace Registry

variable {entry : String × RecordType} {found : String × List String}

/-- A declaration is reported exactly when a fault keeps its record type from being used, with the
text of that fault. -/
theorem problem?_eq_some_iff : problem? entry = some found ↔
    ∃ fault, entry.2.Refused fault ∧ found = (entry.1, [fault.message]) := by
  simp only [RecordType.refused_iff]
  unfold problem?
  cases (SearchCollection.assemble entry.2).bind Schema.queryBy with
  | ok names => simp
  | error fault => simp [eq_comm]

/-- A declaration is not reported exactly when no fault keeps its record type from being used. -/
theorem problem?_eq_none_iff : problem? entry = none ↔ ∀ fault, ¬entry.2.Refused fault := by
  rw [Option.eq_none_iff_forall_not_mem]
  constructor
  · intro none fault refused
    exact none _ (problem?_eq_some_iff.mpr ⟨fault, refused, rfl⟩)
  · intro accepted found some
    obtain ⟨fault, refused, -⟩ := problem?_eq_some_iff.mp some
    exact accepted fault refused

variable {registry : Registry} {type : RecordType}

/-- Warming up stops at the fault of the record type. -/
theorem Fresh.warm_eq_error_iff (fresh : registry.Fresh type) {fault : Fault} :
    (registry.warm type).answer = .error fault ↔ type.Refused fault := by
  rw [fresh.warm, RecordType.refused_iff]
  cases (SearchCollection.assemble type).bind Schema.queryBy <;> simp [Except.map]

/-- A new registry can be warmed up with the record type. -/
def accepts (type : RecordType) : Bool :=
  (empty.warm type).answer.isOk

/-- A record type is accepted exactly when no fault keeps it from being used. -/
theorem accepts_iff : accepts type ↔ ∀ fault, ¬type.Refused fault := by
  simp only [← (fresh_empty type).warm_eq_error_iff]
  unfold accepts
  cases (empty.warm type).answer <;> simp [Except.isOk, Except.toBool]

/-- Each record type is either reported or accepted. -/
theorem length_filterMap_problem? (entries : List (String × RecordType)) :
    (entries.filterMap problem?).length + (entries.filter fun entry => accepts entry.2).length =
      entries.length := by
  have apart (entry : String × RecordType) :
      (problem? entry).isSome = decide (¬accepts entry.2 = true) := by
    rw [Bool.eq_iff_iff, Option.isSome_iff_ne_none, ne_eq, problem?_eq_none_iff, ← accepts_iff,
      decide_eq_true_iff]
  rw [List.length_filterMap_eq_countP, ← List.countP_eq_length_filter,
    List.length_eq_countP_add_countP fun entry => accepts entry.2, Nat.add_comm]
  simp only [apart]

/-- The report names declarations in their own order, none of them twice. -/
theorem names_filterMap_problem? (entries : List (String × RecordType)) :
    ((entries.filterMap problem?).map Prod.fst).Sublist (entries.map Prod.fst) := by
  induction entries with
  | nil => exact .slnil
  | cons entry rest ih =>
      cases reported : problem? entry with
      | none =>
          rw [List.filterMap_cons_none reported]
          exact .cons _ ih
      | some problem =>
          obtain ⟨fault, -, rfl⟩ := problem?_eq_some_iff.mp reported
          rw [List.filterMap_cons_some reported]
          exact .cons_cons _ ih

end Registry

/-- The report has one text for each declaration at fault, that of its fault, in the order of the
declarations, and as many declarations are left over as can be used. -/
structure Reports (types : FileRecordTypes) (found : List (String × List String)) : Prop where
  mem_iff (name : String) (texts : List String) : (name, texts) ∈ found ↔
    ∃ type fault, (name, type) ∈ types ∧ type.toRecordType.Refused fault ∧ texts = [fault.message]
  names : (found.map Prod.fst).Sublist (types.map Prod.fst)
  length_le : found.length ≤ types.length
  valid : types.length - found.length =
    (types.filter fun entry => Registry.accepts entry.2.toRecordType).length

namespace FileRecordTypes

variable {types : FileRecordTypes}

/-- The report on declarations. -/
def problems (types : FileRecordTypes) : List (String × List String) :=
  types.records.filterMap Registry.problem?

/-- The problems of the declarations are a report on them. -/
theorem reports_problems (types : FileRecordTypes) : Reports types types.problems := by
  have total := Registry.length_filterMap_problem? types.records
  have length : types.records.length = types.length := List.length_map _
  have accepted : (types.records.filter fun entry => Registry.accepts entry.2).length =
      (types.filter fun entry => Registry.accepts entry.2.toRecordType).length := by
    rw [records, List.filter_map, List.length_map]
    rfl
  refine ⟨?_, ?_, ?_, ?_⟩
  · intro name texts
    simp only [problems, records, List.filterMap_map, List.mem_filterMap, Function.comp_apply,
      Registry.problem?_eq_some_iff, Prod.mk.injEq]
    constructor
    · rintro ⟨⟨_, type⟩, member, fault, refused, rfl, rfl⟩
      exact ⟨type, fault, member, refused, rfl⟩
    · rintro ⟨type, fault, member, refused, rfl⟩
      exact ⟨(name, type), member, fault, refused, rfl, rfl⟩
  · have sublist := Registry.names_filterMap_problem? types.records
    have names : types.records.map Prod.fst = types.map Prod.fst := by
      rw [records, List.map_map]
      rfl
    rw [names] at sublist
    exact sublist
  · unfold problems
    omega
  · unfold problems
    omega

/-- Linting with a new registry gives the report. -/
theorem answer_lintAll (keyed : types.Keyed) :
    (Registry.empty.lintAll types.records).answer = .ok types.problems :=
  (Registry.lintAll_faithful keyed.consistent (Registry.sound_empty _)
    fun _ member => among_of_mem_records member).answer_eq

/-- Nothing is reported exactly when every declaration can be used. -/
theorem problems_eq_nil_iff : types.problems = [] ↔
    ∀ entry ∈ types, ∃ names,
      (assemble entry.2.toRecordType).bind Schema.queryBy = .ok names := by
  rw [problems, records, List.filterMap_map, List.filterMap_eq_nil_iff]
  refine forall₂_congr fun entry _ => ?_
  rw [Function.comp_apply, Registry.problem?_eq_none_iff]
  simp only [RecordType.refused_iff]
  cases (assemble entry.2.toRecordType).bind Schema.queryBy <;> simp

end FileRecordTypes

namespace CommandLine

variable {types : FileRecordTypes}

/-- The query fields of all declarations are listed exactly when no declaration has a problem. -/
theorem exists_queryLists_iff (keyed : types.Keyed) :
    (∃ lists, (queryLists types).answer = .ok lists) ↔ types.problems = [] := by
  rw [answer_queryLists keyed, exists_mapM_eq_ok_iff, FileRecordTypes.problems_eq_nil_iff]
  simp only [exists_answerAlone_iff]

/-- The list of query fields fails with the fault that is reported first. -/
theorem exists_problems_of_queryLists (keyed : types.Keyed) {failure : Failure}
    (failed : (queryLists types).answer = .error failure) :
    ∃ name type fault rest, types.problems = (name, [fault.message]) :: rest ∧
      (name, type) ∈ types ∧ type.toRecordType.Refused fault ∧
      failure = .queryByNotBuilt name fault := by
  rw [answer_queryLists keyed, mapM_eq_error_iff] at failed
  obtain ⟨before, ⟨name, type⟩, after, rfl, passed, failed⟩ := failed
  obtain ⟨fault, refused, rfl⟩ := answerAlone_eq_error_iff.mp failed
  have reported : Registry.problem? (name, type.toRecordType) = some (name, [fault.message]) :=
    Registry.problem?_eq_some_iff.mpr ⟨fault, RecordType.refused_iff.mpr refused, rfl⟩
  have clean : FileRecordTypes.problems before = [] :=
    FileRecordTypes.problems_eq_nil_iff.mpr fun entry member =>
      exists_answerAlone_iff.mp (passed entry member)
  refine ⟨name, type, fault, FileRecordTypes.problems after, ?_,
    List.mem_append_right _ List.mem_cons_self, RecordType.refused_iff.mpr refused, rfl⟩
  unfold FileRecordTypes.problems FileRecordTypes.records at clean ⊢
  rw [List.map_append, List.filterMap_append, clean, List.nil_append, List.map_cons,
    List.filterMap_cons_some reported]

/-- Where nothing is reported, everything can be compiled. -/
theorem exists_schemas_of_clean (keyed : types.Keyed) (clean : types.problems = []) :
    ∃ compiled, (schemas types).answer = .ok compiled := by
  obtain ⟨found, compiled⟩ : ∃ found,
      (answerEach Registry.collectionSchema .schemaNotCompiled .empty types).answer =
        .ok found := by
    rw [answer_collectionSchemas keyed, exists_mapM_eq_ok_iff]
    intro entry member
    obtain ⟨names, listed⟩ := FileRecordTypes.problems_eq_nil_iff.mp clean entry member
    rw [exists_answerAlone_iff]
    cases assembled : assemble entry.2.toRecordType with
    | error fault =>
        rw [assembled] at listed
        cases listed
    | ok schema => exact ⟨schema.collectionSchema, rfl⟩
  rw [schemas]
  dsimp only
  rw [compiled]
  exact ⟨_, rfl⟩

/-- Checking the declarations answers their problems. -/
theorem answer_problems (keyed : types.Keyed) : (problems types).answer = .ok types.problems := by
  have linted := FileRecordTypes.answer_lintAll keyed
  unfold FileRecordTypes.records at linted
  unfold problems
  dsimp only
  rw [linted]
  rfl

/-- **Commands agree on what is at fault.** Linting declarations that are keyed by their names
reports those at fault, each with the text of its fault, and the fault is the one that warming up
stops at, in every registry that is fresh for the record type. For the declarations of a path, query
fields are listed exactly when nothing is reported, and then all can be compiled; else the listing
fails with the fault that is reported first. What is not reported can be warmed up, and nothing is
reported that is not declared. -/
theorem commands_agree (types : FileRecordTypes) :
    (types.Keyed →
      (∃ found, (Registry.empty.lintAll types.records).answer = .ok found ∧
        Reports types found) ∧
      ∀ entry ∈ types, ∀ registry : Registry, registry.Fresh entry.2.toRecordType → ∀ fault,
        (registry.warm entry.2.toRecordType).answer = .error fault ↔
          entry.2.toRecordType.Refused fault) ∧
    ∀ (configuration : Configuration) (path : Option Path) (tree : FileTree),
      onTree tree (loadDeclarations configuration path none) = .ok types →
      types.Keyed ∧ ∃ found, onTree tree (lint configuration path) = .ok found ∧
        Reports types found ∧
        (found = [] ↔ ∃ lists, onTree tree (queryBy configuration path none) = .ok lists) ∧
        (found = [] → ∃ compiled, onTree tree (compile configuration path none) = .ok compiled) ∧
        ∀ failure, onTree tree (queryBy configuration path none) = .error failure →
          ∃ name type fault rest, found = (name, [fault.message]) :: rest ∧
            (name, type) ∈ types ∧ type.toRecordType.Refused fault ∧
            failure = .queryByNotBuilt name fault := by
  constructor
  · intro keyed
    refine ⟨⟨types.problems, FileRecordTypes.answer_lintAll keyed, types.reports_problems⟩, ?_⟩
    intro entry _ registry fresh fault
    exact fresh.warm_eq_error_iff
  · intro configuration path tree loaded
    have keyed := keyed_of_loadDeclarations loaded
    have linted := onTree_withDeclarations loaded problems
    have listed := onTree_withDeclarations loaded queryLists
    have compiled := onTree_withDeclarations loaded schemas
    rw [answer_problems keyed] at linted
    refine ⟨keyed, types.problems, linted, types.reports_problems, ?_, ?_, ?_⟩
    · unfold queryBy
      rw [listed]
      exact (exists_queryLists_iff keyed).symm
    · intro clean
      unfold compile
      rw [compiled]
      exact exists_schemas_of_clean keyed clean
    · intro failure failed
      unfold queryBy at failed
      rw [listed] at failed
      exact exists_problems_of_queryLists keyed failed

/-- The galley of a volume says nothing of the type of its title. -/
def galleyFile : DeclarationFile where
  collection := "Volume"
  schema := some (.mapping [(.string "title", .string "text")])

def galley : FileRecordType :=
  .ofFile galleyFile {} (some "volume.yaml")

/-- The text of the file. -/
def galleyText : String :=
  "\x7b\"collection\": \"Volume\", \"schema\": \x7b\"title\": \"text\"\x7d\x7d"

/-- A folder with the file of the galley. -/
def desk : FileTree where
  root := .folder [("volume.yaml", .file galleyText.toUTF8)]

/-- The file on the desk declares the galley and nothing else. -/
theorem loadDeclarations_desk :
    onTree desk (loadDeclarations { declarations := "" } (some "volume.yaml") none) =
      .ok [("Volume", galley)] := by
  have kind : desk.kind? "volume.yaml" = some .file := rfl
  have text : desk.readText "volume.yaml" = .ok galleyText := rfl
  have read : DeclarationFile.read galleyText = .ok galleyFile := by
    rw [DeclarationFile.read, Yaml.Document.ofString?, Yaml.Token.ofString?_eq_runWithin?]
    rfl
  exact onTree_loadDeclarations_file kind text read

/-- What is wrong with the galley. -/
def galleyFault : Fault :=
  .declaration "Volume" (.notOneType "title" 0)

/-- Nothing is wrong with the album. -/
def album : FileRecordType where
  name := "Album"
  primaryKey := defaultPrimaryKey
  softDelete := false
  deletedAt := defaultDeletedAt
  instants := []
  schema := some (.mapping [(.string "title", .string "string|searchable")])
  source := none

def pressDeclarations : FileRecordTypes :=
  [("Album", album), ("Volume", galley)]

/-- The galley, whose title has no type, cannot be warmed up after linting, is reported with the
same fault, and keeps the query fields from being listed. -/
theorem commands_agree_desk :
    pressDeclarations.Keyed ∧
    ((Registry.empty.lintAll pressDeclarations.records).registry.warm
      galley.toRecordType).answer = .error galleyFault ∧
    onTree desk (loadDeclarations { declarations := "" } (some "volume.yaml") none) =
      .ok [("Volume", galley)] ∧
    ∃ found, onTree desk (lint { declarations := "" } (some "volume.yaml")) = .ok found ∧
      ("Volume", [galleyFault.message]) ∈ found ∧
      ∀ lists, onTree desk (queryBy { declarations := "" } (some "volume.yaml") none) ≠
        .ok lists := by
  have refused : galley.toRecordType.Refused galleyFault := .schema rfl
  have keyed : pressDeclarations.Keyed := (FileRecordTypes.Keyed.single galley).addType album
  have among : ("Volume", galley) ∈ pressDeclarations := List.mem_cons_of_mem _ List.mem_cons_self
  -- Linting has asked the registry about the galley already and left a refusal behind.
  have linted := (Registry.lintAll_faithful keyed.consistent (Registry.sound_empty _)
    fun _ member => FileRecordTypes.among_of_mem_records member).sound
  have fresh := Registry.fresh_of_sound keyed.consistent linted ⟨_, among, rfl⟩ rfl
  obtain ⟨-, warmed⟩ := (commands_agree pressDeclarations).1 keyed
  obtain ⟨-, found, reported, reports, clean, -, -⟩ :=
    (commands_agree _).2 { declarations := "" } (some "volume.yaml") desk loadDeclarations_desk
  have listed : ("Volume", [galleyFault.message]) ∈ found :=
    (reports.mem_iff _ _).mpr ⟨galley, galleyFault, List.mem_cons_self, refused, rfl⟩
  refine ⟨keyed, (warmed _ among _ fresh galleyFault).mpr refused, loadDeclarations_desk, found,
    reported, listed, ?_⟩
  intro lists answered
  rw [clean.mpr ⟨lists, answered⟩] at listed
  cases listed

/-- The galley is reported; but where a manuscript of the same name has been refused before, its
title is taken for that of the galley, and warming up finds nothing wrong. -/
theorem galley_warmed :
    (Registry.empty.lintAll (FileRecordTypes.records [("Volume", galley)])).answer =
      .ok [("Volume", [galleyFault.message])] ∧
    (Registry.empty.after [.resolve manuscript]).isCached "Volume" = false ∧
    ((Registry.empty.after [.resolve manuscript]).warm galley.toRecordType).answer = .ok () :=
  ⟨rfl, rfl, rfl⟩

end CommandLine

end SearchCollection
