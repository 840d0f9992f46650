import SearchCollection.DeclarationFile.Folder
import SearchCollection.Files.Tree
import SearchCollection.Proofs.Entries

/-! # Loaded declarations are keyed by their collections

Record types that are loaded stand under their own names, in ascending order
(`FileRecordTypes.Keyed`): each file adds its record type under its name, and this is kept
from file to file (`keyed_of_loadFiles`). So no two of them have one name.
-/

namespace SearchCollection

variable {types loaded : FileRecordTypes} {type : FileRecordType}

/-- The names ascend, and each record type stands under its own. -/
structure FileRecordTypes.Keyed (types : FileRecordTypes) : Prop where
  ordered : Entries.Ordered types
  named : ∀ entry ∈ types, entry.1 = entry.2.name

namespace FileRecordTypes.Keyed

theorem nil : Keyed [] where
  ordered := List.Pairwise.nil
  named _ member := (List.not_mem_nil member).elim

theorem single (type : FileRecordType) : Keyed [(type.name, type)] where
  ordered := List.pairwise_singleton _ _
  named entry member := by
    rw [List.mem_singleton.mp member]

/-- A record type that is added is kept under its name, in its place. -/
theorem addType (keyed : types.Keyed) (type : FileRecordType) :
    FileRecordTypes.Keyed (DeclarationFolder.addType types type).answer := by
  have ordered : Entries.Ordered (types.insert type.name type) :=
    Entries.ordered_insert type.name type keyed.ordered
  refine ⟨ordered, ?_⟩
  rintro ⟨name, other⟩ member
  have found := (Entries.get?_eq_some_iff ordered).mpr member
  rw [Entries.get?_insert] at found
  by_cases same : name = type.name
  · rw [if_pos same] at found
    rw [← Option.some.inj found]
    exact same
  · rw [if_neg same] at found
    exact keyed.named _ ((Entries.get?_eq_some_iff keyed.ordered).mp found)

/-- A record type of its own is keyed as it is among others. -/
theorem single_of_get? (keyed : types.Keyed) {name : String}
    (found : types.get? name = some type) : FileRecordTypes.Keyed [(name, type)] := by
  have member : (name, type) ∈ types := (Entries.get?_eq_some_iff keyed.ordered).mp found
  have same : name = type.name := keyed.named _ member
  exact same ▸ .single type

/-- Two entries of one name are the same. -/
theorem eq_of_name_eq (keyed : types.Keyed) {first second : String × FileRecordType}
    (firstMember : first ∈ types) (secondMember : second ∈ types)
    (same : first.2.name = second.2.name) : first = second := by
  have keys : first.1 = second.1 := by
    rw [keyed.named first firstMember, keyed.named second secondMember, same]
  have foundFirst := (Entries.get?_eq_some_iff keyed.ordered).mpr firstMember
  have foundSecond := (Entries.get?_eq_some_iff keyed.ordered).mpr secondMember
  rw [keys, foundSecond] at foundFirst
  exact Prod.ext keys (Option.some.inj foundFirst).symm

end FileRecordTypes.Keyed

namespace FileTree

/-- A step on files is taken on the files that the step before it leaves. -/
theorem bind_apply {α β : Type} (first : StateM FileTree α) (next : α → StateM FileTree β)
    (tree : FileTree) : (first >>= next) tree = next (first tree).1 (first tree).2 :=
  rfl

theorem kind?_apply (path : Path) (tree : FileTree) :
    (FileHost.kind? path : StateM FileTree _) tree = (tree.kind? path, tree) :=
  rfl

theorem list_apply (path : Path) (tree : FileTree) :
    (FileHost.list path : StateM FileTree _) tree = (tree.list path, tree) :=
  rfl

theorem readText_apply (path : Path) (tree : FileTree) :
    (FileHost.readText path : StateM FileTree _) tree = (tree.readText path, tree) :=
  rfl

end FileTree

namespace DeclarationFolder

variable {tree : FileTree} (folder : DeclarationFolder)

/-- Loading a file leaves the files as they are. -/
theorem tree_loadFile (tree : FileTree) (path : Path) :
    ((folder.loadFile path : StateM FileTree _) tree).2 = tree := by
  rw [loadFile, FileTree.bind_apply, FileTree.readText_apply]
  cases tree.readText path <;> rfl

/-- Record types loaded from files are kept under their names, in order. -/
theorem keyed_of_loadFiles (keyed : types.Keyed) {paths : List Path}
    (answered : ((folder.loadFiles types paths : StateM FileTree _) tree).1.answer = .ok loaded) :
    loaded.Keyed := by
  induction paths generalizing types tree with
  | nil =>
      cases answered
      exact keyed
  | cons path rest ih =>
      rw [loadFiles, FileTree.bind_apply] at answered
      cases file : ((folder.loadFile path : StateM FileTree _) tree).1 with
      | error fault =>
          rw [file] at answered
          cases answered
      | ok type =>
          rw [file] at answered
          exact ih (keyed.addType type) answered

/-- Record types loaded from a folder are kept under their names, in order. -/
theorem keyed_of_loadAll
    (answered : ((folder.loadAll : StateM FileTree _) tree).1.answer = .ok loaded) :
    loaded.Keyed := by
  rw [loadAll, FileTree.bind_apply, FileTree.kind?_apply] at answered
  split at answered
  · cases answered
  · rw [FileTree.bind_apply, FileTree.list_apply] at answered
    cases listed : tree.list folder.path with
    | error fault =>
        simp only [listed] at answered
        cases answered
    | ok names =>
        simp only [listed] at answered
        rw [FileTree.bind_apply] at answered
        cases found : ((folder.loadFiles [] (folder.declarationPaths names) :
            StateM FileTree _) tree).1.answer with
        | error fault =>
            simp only [found] at answered
            exact folder.keyed_of_loadFiles .nil answered
        | ok types =>
            simp only [found] at answered
            cases answered
            exact folder.keyed_of_loadFiles .nil found

/-- What is loaded from a path is keyed by the names of the record types. -/
theorem keyed_of_loadPath {path : Path}
    (answered : ((folder.loadPath path : StateM FileTree _) tree).1.answer = .ok loaded) :
    loaded.Keyed := by
  rw [loadPath, FileTree.bind_apply, FileTree.kind?_apply] at answered
  split at answered
  · exact keyed_of_loadAll _ answered
  · rw [FileTree.bind_apply] at answered
    cases file : ((folder.loadFile path : StateM FileTree _) tree).1 with
    | error fault =>
        rw [file] at answered
        cases answered
    | ok type =>
        rw [file] at answered
        cases answered
        exact .single type

end DeclarationFolder

end SearchCollection
