import SearchCollection.CommandLine.Command
import SearchCollection.Proofs.DeclarationFile.Keyed
import SearchCollection.Proofs.Registry.Transparency

/-! # Asking about each declaration

Commands ask one registry about each of the declarations in turn. Loaded declarations have
distinct names, so what the registry has kept by then does not matter: the answers are those
without a registry. A report has one text for each record type at fault
(`Registry.lintAll_faithful`), and the other commands stop at the first fault
(`CommandLine.answerEach_eq_mapM`). What a command comes to on a tree of files is what it makes
of the declarations that are loaded (`CommandLine.onTree_withDeclarations`).
-/

namespace SearchCollection

/-- The fault keeps the record type from being used: it is that of its schema, or else that of the
default list of query fields. -/
inductive RecordType.Refused (type : RecordType) (fault : Fault) : Prop where
  | schema (failed : assemble type = .error fault)
  | queryFields {schema : Schema} (assembled : assemble type = .ok schema)
      (failed : schema.queryBy = .error fault)

/-- A record type is refused with the fault of its schema or, when there is a schema, with that of
its query fields. -/
theorem RecordType.refused_iff {type : RecordType} {fault : Fault} :
    type.Refused fault ↔ (assemble type).bind Schema.queryBy = .error fault := by
  constructor
  · intro refused
    cases refused with
    | schema failed =>
        rw [failed]
        rfl
    | queryFields assembled failed =>
        rw [assembled]
        exact failed
  · intro failed
    cases assembled : assemble type with
    | error other =>
        rw [assembled] at failed
        cases failed
        exact .schema assembled
    | ok schema =>
        rw [assembled] at failed
        exact .queryFields assembled failed

namespace FileRecordTypes

/-- The record type is one of the declared ones. -/
def Among (types : FileRecordTypes) (type : RecordType) : Prop :=
  ∃ entry ∈ types, entry.2.toRecordType = type

/-- The declared record types by their names. -/
def records (types : FileRecordTypes) : List (String × RecordType) :=
  types.map fun entry => (entry.1, entry.2.toRecordType)

theorem among_of_mem_records {types : FileRecordTypes} {entry : String × RecordType}
    (member : entry ∈ types.records) : types.Among entry.2 := by
  obtain ⟨original, originalMember, rfl⟩ := List.mem_map.mp member
  exact ⟨original, originalMember, rfl⟩

/-- Declarations under different names do not contradict each other. -/
theorem Keyed.consistent {types : FileRecordTypes} (keyed : types.Keyed) :
    Consistent types.Among := by
  rintro _ _ ⟨first, firstMember, rfl⟩ ⟨second, secondMember, rfl⟩ same
  have equal : first = second := keyed.eq_of_name_eq firstMember secondMember same
  rw [equal]

end FileRecordTypes

namespace Registry

variable {types : RecordType → Prop} {registry : Registry}

/-- The answer of a faithful outcome that is seen as it is. -/
theorem Outcome.Faithful.answer_eq {α : Type} {outcome : Outcome α} {expected : Except Fault α}
    (faithful : outcome.Faithful types id expected) : outcome.answer = expected := by
  rw [← faithful.answer]
  cases outcome.answer <;> rfl

/-- The problem of a record type under its name, if there is one. -/
def problem? (entry : String × RecordType) : Option (String × List String) :=
  match (SearchCollection.assemble entry.2).bind Schema.queryBy with
  | .ok _ => none
  | .error fault => some (entry.1, [fault.message])

/-- Each record type is reported as if it were the only one. -/
theorem lintAll_faithful (consistent : Consistent types) (sound : Sound types registry)
    {entries : List (String × RecordType)} (members : ∀ entry ∈ entries, types entry.2) :
    (registry.lintAll entries).Faithful types id (.ok (entries.filterMap problem?)) := by
  induction entries generalizing registry with
  | nil => exact ⟨sound, rfl⟩
  | cons entry rest ih =>
      obtain ⟨headMember, restMembers⟩ := List.forall_mem_cons.mp members
      have head := lint_faithful consistent sound headMember
      have tail := ih head.sound restMembers
      refine ⟨tail.sound, ?_⟩
      rw [lintAll]
      dsimp only
      rw [head.answer_eq, tail.answer_eq, List.filterMap_cons, problem?, RecordType.problems]
      cases (SearchCollection.assemble entry.2).bind Schema.queryBy <;> rfl

end Registry

namespace CommandLine

variable {types : RecordType → Prop} {registry : Registry} {α : Type}

/-- What a declaration is answered without a registry, under its name. -/
def answerAlone (direct : RecordType → Except Fault α) (failure : String → Fault → Failure)
    (entry : String × FileRecordType) : Except Failure (String × α) :=
  ((direct entry.2.toRecordType).map fun answer => (entry.1, answer)).mapError (failure entry.1)

/-- A declaration is answered exactly when its record type is. -/
theorem exists_answerAlone_iff {direct : RecordType → Except Fault α}
    {failure : String → Fault → Failure} {entry : String × FileRecordType} :
    (∃ answer, answerAlone direct failure entry = .ok answer) ↔
      ∃ answer, direct entry.2.toRecordType = .ok answer := by
  unfold answerAlone
  cases direct entry.2.toRecordType <;> simp [Except.map, Except.mapError]

/-- A declaration fails with the fault of its record type, told under its name. -/
theorem answerAlone_eq_error_iff {direct : RecordType → Except Fault α}
    {failure : String → Fault → Failure} {entry : String × FileRecordType} {failed : Failure} :
    answerAlone direct failure entry = .error failed ↔
      ∃ fault, direct entry.2.toRecordType = .error fault ∧ failed = failure entry.1 fault := by
  unfold answerAlone
  cases direct entry.2.toRecordType <;> simp [Except.map, Except.mapError, eq_comm]

/-- Each declaration is answered as if it were the only one, up to the first fault. -/
theorem answerEach_eq_mapM {ask : Registry → RecordType → Registry.Outcome α}
    {direct : RecordType → Except Fault α} (failure : String → Fault → Failure)
    (faithful : ∀ registry type, Registry.Sound types registry → types type →
      (ask registry type).Faithful types id (direct type))
    (sound : Registry.Sound types registry) {entries : FileRecordTypes}
    (members : ∀ entry ∈ entries, types entry.2.toRecordType) :
    (answerEach ask failure registry entries).answer =
      entries.mapM (answerAlone direct failure) := by
  induction entries generalizing registry with
  | nil => rfl
  | cons entry rest ih =>
      obtain ⟨headMember, restMembers⟩ := List.forall_mem_cons.mp members
      have head := faithful registry _ sound headMember
      have tail := ih head.sound restMembers
      rw [answerEach, List.mapM_cons]
      simp only [head.answer_eq, tail, answerAlone]
      cases direct entry.2.toRecordType with
      | error fault => rfl
      | ok answer =>
          simp only
          cases rest.mapM (answerAlone direct failure) <;> rfl

section

variable {types : FileRecordTypes}

/-- The lists of query fields are those found without a registry, or the first failure among
them. -/
theorem answer_queryLists (keyed : types.Keyed) :
    (queryLists types).answer = types.mapM
      (answerAlone (fun type => (assemble type).bind Schema.queryBy) .queryByNotBuilt) := by
  have faithful (registry : Registry) (type : RecordType)
      (sound : Registry.Sound types.Among registry) (member : types.Among type) :
      (registry.queryBy type).Faithful types.Among id ((assemble type).bind Schema.queryBy) :=
    Registry.queryBy_faithful keyed.consistent sound member
  exact answerEach_eq_mapM .queryByNotBuilt faithful (Registry.sound_empty types.Among)
    fun entry member => ⟨entry, member, rfl⟩

/-- The collection schemas are those found without a registry, or the first failure among them. -/
theorem answer_collectionSchemas (keyed : types.Keyed) :
    (answerEach Registry.collectionSchema .schemaNotCompiled .empty types).answer =
      types.mapM (answerAlone
        (fun type => (assemble type).bind fun schema => .ok schema.collectionSchema)
        .schemaNotCompiled) := by
  have faithful (registry : Registry) (type : RecordType)
      (sound : Registry.Sound types.Among registry) (member : types.Among type) :
      (registry.collectionSchema type).Faithful types.Among id
        ((assemble type).bind fun schema => .ok schema.collectionSchema) :=
    Registry.collectionSchema_faithful keyed.consistent sound member
  exact answerEach_eq_mapM .schemaNotCompiled faithful (Registry.sound_empty types.Among)
    fun entry member => ⟨entry, member, rfl⟩

/-- What a program on files comes to, without what the log is told. -/
def onTree {α : Type} (tree : FileTree) (program : StateM FileTree (Finding α)) :
    Except Failure α :=
  (program tree).1.answer

/-- A command whose declarations load answers for them. -/
theorem onTree_withDeclarations {α : Type} {configuration : Configuration} {path : Option Path}
    {collection : Option String} {tree : FileTree}
    (loaded : onTree tree (loadDeclarations configuration path collection) = .ok types)
    (work : FileRecordTypes → Finding α) :
    onTree tree (withDeclarations configuration path collection work) = (work types).answer := by
  unfold onTree at loaded ⊢
  rw [withDeclarations, FileTree.bind_apply, loaded]
  rfl

/-- A file that is read as a declaration is loaded under the name of its collection. -/
theorem onTree_loadDeclarations_file {configuration : Configuration} {tree : FileTree}
    {path : Path} {text : String} {file : DeclarationFile} (kind : tree.kind? path = some .file)
    (held : tree.readText path = .ok text) (read : DeclarationFile.read text = .ok file) :
    onTree tree (loadDeclarations configuration (some path) none) =
      .ok [(file.collection, .ofFile file configuration.conventions (some path))] := by
  have loaded (folder : DeclarationFolder) :
      ((folder.loadFile path : StateM FileTree _) tree).1 =
        .ok (.ofFile file folder.conventions (some path)) := by
    rw [DeclarationFolder.loadFile, FileTree.bind_apply, FileTree.readText_apply, held]
    dsimp only
    rw [read]
    rfl
  unfold onTree
  rw [loadDeclarations, FileTree.bind_apply, Option.getD_some, DeclarationFolder.loadPath,
    FileTree.bind_apply, FileTree.kind?_apply, kind, if_neg (by simp), FileTree.bind_apply,
    loaded]
  rfl

/-- Declarations that load have different names. -/
theorem keyed_of_loadDeclarations {configuration : Configuration} {path : Option Path}
    {tree : FileTree} (loaded : onTree tree (loadDeclarations configuration path none) = .ok types) :
    types.Keyed := by
  unfold onTree at loaded
  rw [loadDeclarations, FileTree.bind_apply] at loaded
  cases found : ((configuration.declarationFolder.loadPath
      (path.getD configuration.declarations) : StateM FileTree _) tree).1.answer with
  | error fault =>
      rw [found] at loaded
      cases loaded
  | ok all =>
      rw [found] at loaded
      cases loaded
      exact DeclarationFolder.keyed_of_loadPath _ found

end

end CommandLine

end SearchCollection
