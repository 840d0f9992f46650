import SearchCollection.Proofs.DeclarationFile.Keyed
import SearchCollection.Proofs.DeclarationFile.Overrides
import SearchCollection.Proofs.Text.Pieces
import SearchCollection.Proofs.Traversal
import SearchCollection.Proofs.Yaml.Steps

/-! # Folders in whatever order they are listed

The names of a folder may come in any order. Those of declaration files are put in
order before a file is read (`DeclarationFolder.declarationNames`), so that the same
files give the same answer and tell the log the same however they are listed
(`DeclarationFolder.loadAll_any_order`): the first file in order that is no declaration
is the fault of the folder, and of the record types of one name the one of the last
file is known. The files that are overridden are named to the log in the order of
those that override them, not in their own (`overridden_out_of_order`).
-/

namespace SearchCollection

/-! ## Names of declaration files -/

namespace Path

/-- The ending of a name follows the last dot, and something stands before the dot. -/
theorem extension?_eq_some_iff {name ending : String} :
    extension? name = some ending ↔
      name ≠ ".." ∧ '.' ∉ ending.toList ∧ ∃ stem, stem ≠ "" ∧ name = stem ++ "." ++ ending := by
  constructor
  · intro found
    simp only [extension?] at found
    split at found
    · next last before parts =>
        obtain ⟨whole, absent⟩ := Text.eq_of_cut parts
        split at found
        · cases found
        · next given =>
            rw [Bool.or_eq_true, not_or, List.isEmpty_iff, decide_eq_true_eq] at given
            obtain rfl := Option.some.inj found
            refine ⟨given.2, by simpa using absent, .ofList before.reverse, ?_, ?_⟩
            · simpa using given.1
            · rw [← String.toList_inj, ← List.reverse_inj, whole]
              simp
    · cases found
  · rintro ⟨notUp, absent, stem, some, rfl⟩
    have reversed : (stem ++ "." ++ ending).toList.reverse =
        ending.toList.reverse ++ '.' :: stem.toList.reverse := by
      simp
    have parts := Text.cut_append (mt List.mem_reverse.mp absent) stem.toList.reverse
    simp only [extension?, reversed, parts]
    rw [if_neg, List.reverse_reverse, String.ofList_toList]
    simpa [notUp] using some

end Path

/-- A name of a declaration file: something stands before one of the two endings. -/
def IsDeclarationName (name : String) : Prop :=
  ∃ stem, stem ≠ "" ∧ (name = stem ++ ".yaml" ∨ name = stem ++ ".yml")

namespace DeclarationFolder

/-- The loader takes the names of declaration files for such. -/
theorem isDeclarationName_iff {name : String} :
    isDeclarationName name = true ↔ IsDeclarationName name := by
  have endings : isDeclarationName name = true ↔
      Path.extension? name = some "yaml" ∨ Path.extension? name = some "yml" := by
    rw [isDeclarationName]
    cases Path.extension? name with
    | none => simp
    | some ending => simp
  have longer (stem ending : String) (long : 2 < ending.length) : stem ++ ending ≠ ".." := by
    intro same
    have lengths := congrArg String.length same
    rw [String.length_append, show "..".length = 2 from rfl] at lengths
    omega
  rw [endings, Path.extension?_eq_some_iff, Path.extension?_eq_some_iff]
  simp only [String.append_assoc]
  constructor
  · rintro (⟨-, -, stem, some, rfl⟩ | ⟨-, -, stem, some, rfl⟩)
    · exact ⟨stem, some, .inl rfl⟩
    · exact ⟨stem, some, .inr rfl⟩
  · rintro ⟨stem, some, rfl | rfl⟩
    · exact .inl ⟨longer stem ".yaml" (by decide), by decide, stem, some, rfl⟩
    · exact .inr ⟨longer stem ".yml" (by decide), by decide, stem, some, rfl⟩

section Names

variable {names others : List String}

/-- The names of declaration files, in order. -/
def declarationNames (names : List String) : List String :=
  (names.filter isDeclarationName).mergeSort fun a b => a ≤ b

/-- The loader goes through the declaration files of a folder in the order of their names. -/
theorem declarationPaths_eq (folder : DeclarationFolder) (names : List String) :
    folder.declarationPaths names = (declarationNames names).map folder.path.join :=
  rfl

theorem mem_declarationNames {name : String} :
    name ∈ declarationNames names ↔ name ∈ names ∧ IsDeclarationName name := by
  rw [declarationNames, List.mem_mergeSort, List.mem_filter, isDeclarationName_iff]

/-- No name of a declaration file is lost or repeated by putting them in order. -/
theorem declarationNames_perm (names : List String) :
    (declarationNames names).Perm (names.filter isDeclarationName) :=
  List.mergeSort_perm _ _

/-- The names of declaration files ascend. -/
theorem pairwise_le_declarationNames (names : List String) :
    (declarationNames names).Pairwise (· ≤ ·) := by
  refine (List.pairwise_mergeSort ?_ ?_ (names.filter isDeclarationName)).imp of_decide_eq_true
  · intro a b c first second
    exact decide_eq_true (String.le_trans (of_decide_eq_true first) (of_decide_eq_true second))
  · intro a b
    simpa using String.le_total a b

/-- Where no name comes twice, the names ascend. -/
theorem pairwise_lt_declarationNames (distinct : names.Nodup) :
    (declarationNames names).Pairwise (· < ·) := by
  have nodup : (declarationNames names).Nodup :=
    (declarationNames_perm names).nodup_iff.mpr (distinct.filter _)
  refine ((pairwise_le_declarationNames names).and nodup).imp ?_
  rintro a b ⟨below, different⟩
  exact Std.lt_of_le_of_ne below different

/-- The paths of declaration files differ when those of all files listed do. -/
theorem nodup_declarationPaths {folder : DeclarationFolder}
    (distinct : (names.map folder.path.join).Nodup) :
    ((declarationNames names).map folder.path.join).Nodup := by
  rw [((declarationNames_perm names).map folder.path.join).nodup_iff]
  exact distinct.sublist (List.filter_sublist.map folder.path.join)

/-- Names that ascend already keep their order. -/
theorem declarationNames_of_pairwise (ordered : names.Pairwise (· ≤ ·)) :
    declarationNames names = names.filter isDeclarationName := by
  apply List.mergeSort_of_pairwise
  exact (ordered.imp decide_eq_true).filter _

/-- The order in which the names are given says nothing. -/
theorem declarationNames_eq_of_perm (perm : names.Perm others) :
    declarationNames names = declarationNames others := by
  apply List.Perm.eq_of_pairwise (fun _ _ _ _ => String.le_antisymm)
    (pairwise_le_declarationNames names) (pairwise_le_declarationNames others)
  exact (declarationNames_perm names).trans
    ((perm.filter _).trans (declarationNames_perm others).symm)

end Names

/-! ## Files of a tree -/

variable {folder : DeclarationFolder} {tree other : FileTree} {path : Path} {paths : List Path}
  {types : FileRecordTypes} {type : FileRecordType} {fault : Fault}

/-- The record type of a file of a tree. -/
def typeAt (folder : DeclarationFolder) (tree : FileTree) (path : Path) :
    Except Fault FileRecordType :=
  ((folder.loadFile path : StateM FileTree _) tree).1

/-- The record type of a file is what its text declares, with the conventions of the folder. -/
theorem typeAt_eq (folder : DeclarationFolder) (tree : FileTree) (path : Path) :
    folder.typeAt tree path =
      match tree.readText path with
      | .error fault => .error (.file fault)
      | .ok text => (DeclarationFile.read text).map fun file =>
          .ofFile file folder.conventions (some path) := by
  rw [typeAt, loadFile, FileTree.bind_apply, FileTree.readText_apply]
  cases tree.readText path <;> rfl

theorem typeAt_of_read {text : String} {file : DeclarationFile}
    (found : tree.readText path = .ok text) (read : DeclarationFile.read text = .ok file) :
    folder.typeAt tree path = .ok (.ofFile file folder.conventions (some path)) := by
  simp only [typeAt_eq, found, read]
  rfl

/-- The loader finds the record type of a file and changes no file. -/
theorem loadFile_apply (folder : DeclarationFolder) (tree : FileTree) (path : Path) :
    (folder.loadFile path : StateM FileTree _) tree = (folder.typeAt tree path, tree) :=
  Prod.ext rfl (folder.tree_loadFile tree path)

/-- What a file says is all that its record type depends on. -/
theorem typeAt_congr (same : other.readText path = tree.readText path) :
    folder.typeAt other path = folder.typeAt tree path := by
  rw [typeAt_eq, typeAt_eq, same]

/-- A record type knows its file. -/
theorem source_of_typeAt (found : folder.typeAt tree path = .ok type) :
    type.source = some path := by
  rw [typeAt_eq] at found
  split at found
  · cases found
  · obtain ⟨file, -, rfl⟩ := exists_of_map_eq_ok found
    rfl

/-- Each record type names the file that it comes from. -/
theorem sources_of_forall₂ {files : List FileRecordType}
    (each : List.Forall₂ (fun path type => folder.typeAt tree path = .ok type) paths files) :
    files.map FileRecordType.source = paths.map some := by
  induction each with
  | nil => rfl
  | cons found _ ih => rw [List.map_cons, List.map_cons, source_of_typeAt found, ih]

/-- What loading files from a tree answers and tells the log. -/
def filesLoaded (folder : DeclarationFolder) (tree : FileTree) (types : FileRecordTypes)
    (paths : List Path) : Logged (Except Fault FileRecordTypes) :=
  ((folder.loadFiles types paths : StateM FileTree _) tree).1

/-- A file without a record type ends the loading with its fault, and nothing more is logged. -/
theorem filesLoaded_cons_of_error {rest : List Path}
    (failed : folder.typeAt tree path = .error fault) :
    folder.filesLoaded tree types (path :: rest) = ⟨.error fault, []⟩ := by
  rw [filesLoaded, loadFiles, FileTree.bind_apply, loadFile_apply, failed]
  rfl

/-- The record type of a file is added before those of the files after it. -/
theorem filesLoaded_cons_of_ok {rest : List Path} (found : folder.typeAt tree path = .ok type) :
    folder.filesLoaded tree types (path :: rest) =
      ⟨(folder.filesLoaded tree (addType types type).answer rest).answer,
        (addType types type).events ++
          (folder.filesLoaded tree (addType types type).answer rest).events⟩ := by
  rw [filesLoaded, loadFiles, FileTree.bind_apply, loadFile_apply, found]
  rfl

/-- What the files say is all that loading them depends on. -/
theorem filesLoaded_congr (same : ∀ path ∈ paths, other.readText path = tree.readText path) :
    folder.filesLoaded other types paths = folder.filesLoaded tree types paths := by
  induction paths generalizing types with
  | nil => rfl
  | cons path rest ih =>
      obtain ⟨head, tail⟩ := List.forall_mem_cons.mp same
      have alike : folder.typeAt other path = folder.typeAt tree path := typeAt_congr head
      cases found : folder.typeAt tree path with
      | error fault =>
          rw [filesLoaded_cons_of_error found, filesLoaded_cons_of_error (alike.trans found)]
      | ok type =>
          rw [filesLoaded_cons_of_ok found, filesLoaded_cons_of_ok (alike.trans found), ih tail]

/-- Loading fails exactly with the fault of the first file that has one. -/
theorem filesLoaded_eq_error_iff :
    (folder.filesLoaded tree types paths).answer = .error fault ↔
      FirstFault (folder.typeAt tree) paths fault := by
  induction paths generalizing types with
  | nil => exact iff_of_false (fun failed => nomatch failed) (not_firstFault_nil _ fault)
  | cons path rest ih =>
      rw [firstFault_cons_iff]
      cases found : folder.typeAt tree path with
      | error fault => simp [filesLoaded_cons_of_error found]
      | ok type => simp [filesLoaded_cons_of_ok found, ih]

/-- Files without a fault are added one after the other. -/
theorem filesLoaded_of_forall₂ {files : List FileRecordType}
    (each : List.Forall₂ (fun path type => folder.typeAt tree path = .ok type) paths files) :
    folder.filesLoaded tree types paths =
      ⟨.ok (addTypes types files).answer, (addTypes types files).events⟩ := by
  induction each generalizing types with
  | nil => rfl
  | cons found _ ih =>
      rw [filesLoaded_cons_of_ok found, ih]
      rfl

/-! ## The folder -/

/-- A folder that can be listed has its declaration files loaded, and of their number the log is
told. -/
theorem loadAll_of_list {names : List String} (listed : tree.list folder.path = .ok names) :
    ((folder.loadAll : StateM FileTree _) tree).1 =
      let loaded := folder.filesLoaded tree [] (folder.declarationPaths names)
      match loaded.answer with
      | .error _ => loaded
      | .ok types =>
          ⟨.ok types, loaded.events ++ [.declarationsLoaded types.length folder.path]⟩ := by
  have present : (tree.kind? folder.path).isNone = false := by
    rw [FileTree.list] at listed
    rw [FileTree.kind?]
    cases there : tree.node folder.path with
    | error fault =>
        rw [there] at listed
        cases listed
    | ok node => rfl
  rw [loadAll, FileTree.bind_apply, FileTree.kind?_apply]
  simp only [present, Bool.false_eq_true, ↓reduceIte]
  rw [FileTree.bind_apply, FileTree.list_apply, listed]
  simp only
  rw [FileTree.bind_apply, filesLoaded]
  cases (folder.loadFiles [] (folder.declarationPaths names) : StateM FileTree _) tree with
  | mk loaded left => cases loaded.answer <;> rfl

/-- A folder is not loaded exactly when one of its files has no record type, and the first such file
gives the fault. -/
theorem answer_loadAll_eq_error_iff {names : List String}
    (listed : tree.list folder.path = .ok names) :
    ((folder.loadAll : StateM FileTree _) tree).1.answer = .error fault ↔
      FirstFault (folder.typeAt tree) (folder.declarationPaths names) fault := by
  have first : (folder.filesLoaded tree [] (folder.declarationPaths names)).answer = .error fault ↔
      FirstFault (folder.typeAt tree) (folder.declarationPaths names) fault :=
    filesLoaded_eq_error_iff
  rw [loadAll_of_list listed, ← first]
  cases answered : (folder.filesLoaded tree [] (folder.declarationPaths names)).answer with
  | error other => simp [answered]
  | ok loaded => simp [answered]

/-- Record types of files that are not the same file are not the same. -/
theorem nodup_of_forall₂ {files : List FileRecordType}
    (each : List.Forall₂ (fun path type => folder.typeAt tree path = .ok type) paths files)
    (distinct : paths.Nodup) : files.Nodup := by
  apply List.Nodup.of_map FileRecordType.source
  rw [sources_of_forall₂ each]
  exact distinct.map fun _ _ => Option.some.inj

/-- **The order of a listing says nothing.** A folder answers and tells the log the same in whatever
order its names are listed, as long as its files say the same. Its declaration files in ascending
order decide: the fault of the first one that has a fault is the fault of the folder; or else each
collection that is declared is known by the record type of the last file that declares it, and the
log is told of each record type that is overridden, in the order of the files that override
them. -/
theorem loadAll_any_order {names : List String} (listed : tree.list folder.path = .ok names)
    (distinct : (names.map folder.path.join).Nodup) :
    (∀ (other : FileTree) (others : List String), other.list folder.path = .ok others →
      names.Perm others →
      (∀ name ∈ names,
        other.readText (folder.path.join name) = tree.readText (folder.path.join name)) →
      ((folder.loadAll : StateM FileTree _) other).1 =
        ((folder.loadAll : StateM FileTree _) tree).1) ∧
    (declarationNames names).Pairwise (· < ·) ∧
    (∀ name, name ∈ declarationNames names ↔ name ∈ names ∧ IsDeclarationName name) ∧
    (∀ fault, ((folder.loadAll : StateM FileTree _) tree).1.answer = .error fault ↔
      FirstFault (folder.typeAt tree) ((declarationNames names).map folder.path.join) fault) ∧
    ∀ files, List.Forall₂ (fun path type => folder.typeAt tree path = .ok type)
        ((declarationNames names).map folder.path.join) files →
      ∃ loaded overrides,
        ((folder.loadAll : StateM FileTree _) tree).1 =
          ⟨.ok loaded, (overrides.map fun pair => pair.1.overriddenEvent) ++
            [.declarationsLoaded loaded.length folder.path]⟩ ∧
        loaded.Keyed ∧
        (∀ name, name ∈ loaded.map Prod.fst ↔ ∃ type ∈ files, type.name = name) ∧
        (∀ name type, Entries.get? name loaded = some type ↔
          type.name = name ∧ ∃ before after, files = before ++ type :: after ∧
            ∀ other ∈ after, other.name ≠ name) ∧
        ListsOverrides files overrides := by
  refine ⟨fun other others listedOther perm same => ?_, ?_, ?_, ?_, ?_⟩
  · rw [loadAll_of_list listed, loadAll_of_list listedOther, declarationPaths_eq,
      declarationPaths_eq, ← declarationNames_eq_of_perm perm, filesLoaded_congr]
    intro path member
    obtain ⟨name, among, rfl⟩ := List.mem_map.mp member
    exact same name (mem_declarationNames.mp among).1
  · exact pairwise_lt_declarationNames distinct.of_map
  · exact fun name => mem_declarationNames
  · exact fun fault => answer_loadAll_eq_error_iff listed
  · intro files each
    have nodup : files.Nodup :=
      nodup_of_forall₂ each (nodup_declarationPaths distinct)
    obtain ⟨overrides, lists, told⟩ := exists_listsOverrides nodup
    have answered : ((folder.loadAll : StateM FileTree _) tree).1 =
        ⟨.ok (addTypes [] files).answer, (overrides.map fun pair => pair.1.overriddenEvent) ++
          [.declarationsLoaded (addTypes [] files).answer.length folder.path]⟩ := by
      rw [loadAll_of_list listed, declarationPaths_eq, filesLoaded_of_forall₂ each, ← told]
    refine ⟨(addTypes [] files).answer, overrides, answered, ?_, ?_, ?_, lists⟩
    · exact keyed_of_loadAll folder (congrArg Logged.answer answered)
    · exact fun name => mem_keys_addTypes
    · exact fun name type => get?_addTypes_eq_some_iff

/-- A file that names a collection and nothing else. -/
def naming (collection : String) : DeclarationFile where
  collection := collection

def albumText : String :=
  "\x7b\"collection\": \"Album\"\x7d"

def trackText : String :=
  "\x7b\"collection\": \"Track\"\x7d"

theorem read_albumText : DeclarationFile.read albumText = .ok (naming "Album") := by
  rw [DeclarationFile.read, Yaml.Document.ofString?, Yaml.Token.ofString?_eq_runWithin?]
  rfl

theorem read_trackText : DeclarationFile.read trackText = .ok (naming "Track") := by
  rw [DeclarationFile.read, Yaml.Document.ofString?, Yaml.Token.ofString?_eq_runWithin?]
  rfl

/-- Two files of tracks between two files of albums. -/
def crossedMembers : List (String × FileNode) :=
  [("a.yaml", .file albumText.toUTF8), ("b.yaml", .file trackText.toUTF8),
    ("c.yaml", .file trackText.toUTF8), ("d.yaml", .file albumText.toUTF8),
    ("notes.txt", .file "".toUTF8)]

def crossed : FileTree where
  root := .folder crossedMembers

/-- The current folder. -/
def here : DeclarationFolder where
  path := "."

/-- The record types of the crossed files, in order. -/
def crossedTypes : List FileRecordType :=
  [.ofFile (naming "Album") {} (some "./a.yaml"), .ofFile (naming "Track") {} (some "./b.yaml"),
    .ofFile (naming "Track") {} (some "./c.yaml"), .ofFile (naming "Album") {} (some "./d.yaml")]

/-- The four crossed files are declaration files. -/
theorem declarationNames_crossed :
    declarationNames (crossedMembers.map Prod.fst) = ["a.yaml", "b.yaml", "c.yaml", "d.yaml"] := by
  rw [declarationNames_of_pairwise (by decide)]
  rfl

/-- Each crossed file has its record type. -/
theorem forall₂_crossed : List.Forall₂ (fun path type => here.typeAt crossed path = .ok type)
    ((declarationNames (crossedMembers.map Prod.fst)).map here.path.join) crossedTypes := by
  rw [declarationNames_crossed]
  exact .cons (typeAt_of_read rfl read_albumText) (.cons (typeAt_of_read rfl read_trackText)
    (.cons (typeAt_of_read rfl read_trackText) (.cons (typeAt_of_read rfl read_albumText) .nil)))

/-- The crossed files are loaded from either end alike, and the last file of albums stays. -/
theorem loadAll_any_order_crossed :
    ((here.loadAll : StateM FileTree _) ⟨.folder crossedMembers.reverse, []⟩).1 =
      ((here.loadAll : StateM FileTree _) crossed).1 ∧
    ∃ loaded, ((here.loadAll : StateM FileTree _) crossed).1.answer = .ok loaded ∧
      Entries.get? "Album" loaded =
        some (.ofFile (naming "Album") {} (some "./d.yaml")) := by
  have listed : crossed.list here.path = .ok (crossedMembers.map Prod.fst) := rfl
  have distinct : ((crossedMembers.map Prod.fst).map here.path.join).Nodup := by decide
  obtain ⟨same, -, -, -, loads⟩ := loadAll_any_order listed distinct
  constructor
  · apply same _ (crossedMembers.reverse.map Prod.fst) rfl
    · exact (List.reverse_perm crossedMembers).symm.map Prod.fst
    · simp only [crossedMembers, List.map_cons, List.map_nil, List.forall_mem_cons]
      exact ⟨rfl, rfl, rfl, rfl, rfl, fun _ member => (List.not_mem_nil member).elim⟩
  · obtain ⟨loaded, overrides, answered, -, -, found, -⟩ := loads crossedTypes forall₂_crossed
    refine ⟨loaded, congrArg Logged.answer answered, (found _ _).mpr ⟨rfl, ?_⟩⟩
    exact ⟨crossedTypes.dropLast, [], rfl, fun _ member => (List.not_mem_nil member).elim⟩

/-- The files that are overridden are not named in their own order: that of the tracks is named
before that of the albums, which stands before it. -/
theorem overridden_out_of_order :
    ((here.loadAll : StateM FileTree _) crossed).1.events =
      [.declarationReplaced "Track" (some "./b.yaml"),
        .declarationReplaced "Album" (some "./a.yaml"), .declarationsLoaded 2 "."] ∧
    "./a.yaml" < "./b.yaml" := by
  refine ⟨?_, by decide⟩
  have listed : crossed.list here.path = .ok (crossedMembers.map Prod.fst) := rfl
  rw [loadAll_of_list listed, declarationPaths_eq, filesLoaded_of_forall₂ forall₂_crossed]
  rfl

end DeclarationFolder

end SearchCollection
