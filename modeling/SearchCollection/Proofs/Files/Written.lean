import SearchCollection.Files.Tree
import SearchCollection.Proofs.Text.Pieces

/-! # Written files are read back

A path leads to a node if all its names but the last lead to folders, points being resolved on the
way (`FileNode.walk_eq_ok_iff`). Writing a file keeps every folder a folder, so a path that leads
to the file while it is written still leads there afterwards, and what is read there is the text
that was written (`FileTree.readText_write`).
-/

namespace SearchCollection

/-- Only the empty path has no names. -/
theorem Path.names_ne_nil {path : Path} (nonempty : path ≠ "") : path.names ≠ [] := by
  unfold names
  dsimp only
  split
  · simp
  · next last =>
      intro none
      have empty : ∀ piece ∈ Text.split '/' path.toList, piece = [] := by
        intro piece member
        have idle := List.filter_eq_nil_iff.mp none (.ofList piece) (List.mem_map_of_mem member)
        simpa using idle
      have chars : path.toList ≠ [] := by simpa using nonempty
      apply last
      rw [List.getLast?_eq_some_getLast chars, Option.some.injEq]
      apply Text.eq_of_mem_join empty
      rw [Text.join_split]
      exact List.getLast_mem chars

/-! ## Walking through folders -/

namespace FileNode

/-- The node in a folder. A file has none. -/
def child? : FileNode → String → Option FileNode
  | .file _, _ => none
  | .folder members, name => Entries.get? name members

/-- The node at the end of plain names. -/
def at? (root : FileNode) (names : List String) : Option FileNode :=
  names.foldlM child? root

theorem at?_cons (root : FileNode) (name : String) (rest : List String) :
    root.at? (name :: rest) = (root.child? name).bind (at? · rest) :=
  List.foldlM_cons

theorem at?_append_singleton (root : FileNode) (names : List String) (name : String) :
    root.at? (names ++ [name]) = (root.at? names).bind (child? · name) := by
  simp [at?, List.foldlM_append]

/-- The plain names after one more name. -/
def resolved (sofar : List String) (name : String) : List String :=
  if name = "." then sofar else if name = ".." then sofar.dropLast else sofar ++ [name]

variable {root here node : FileNode} {outer : List FileNode} {sofar names rest : List String}
  {members : List (String × FileNode)}

/-- The node at the end of plain names, behind the folders on the way to it. -/
inductive Along (root : FileNode) : List String → List FileNode → FileNode → Prop where
  | root : Along root [] [] root
  | child {names : List String} {outer : List FileNode} {members : List (String × FileNode)}
      {name : String} {node : FileNode} (along : Along root names outer (.folder members))
      (found : Entries.get? name members = some node) :
      Along root (names ++ [name]) (.folder members :: outer) node

/-- The node at the end of a way is found by its names. -/
theorem Along.at?_eq (along : Along root sofar outer here) : root.at? sofar = some here := by
  induction along with
  | root => rfl
  | child along found ih => rw [at?_append_singleton, ih, Option.bind_some, child?, found]

/-- In a folder, a point stays there, two points go back, and another name is looked up. -/
theorem walk_folder (outer : List FileNode) (members : List (String × FileNode)) (name : String)
    (rest : List String) :
    walk outer (.folder members) (name :: rest) =
      if name = "." then walk outer (.folder members) rest
      else if name = ".." then
        match outer with
        | [] => walk [] (.folder members) rest
        | around :: outer => walk outer around rest
      else match Entries.get? name members with
        | none => .error .notFound
        | some child => walk (.folder members :: outer) child rest := by
  cases outer <;> rfl

/-- The names lead from the end of plain names to a node, through folders only. -/
def Leads (root : FileNode) (sofar : List String) : List String → FileNode → Prop
  | [], node => root.at? sofar = some node
  | name :: rest, node =>
      (∃ members, root.at? sofar = some (.folder members)) ∧
        Leads root (resolved sofar name) rest node

/-- Names that lead to a node do so without their points. -/
theorem Leads.at?_eq (leads : Leads root sofar names node) :
    root.at? (names.foldl resolved sofar) = some node := by
  induction names generalizing sofar with
  | nil => exact leads
  | cons name rest ih => exact ih leads.2

/-- Names lead to a node only from where one stands. -/
theorem Leads.exists_at? (leads : Leads root sofar names node) :
    ∃ start, root.at? sofar = some start := by
  cases names with
  | nil => exact ⟨node, leads⟩
  | cons name rest =>
      obtain ⟨members, found⟩ := leads.1
      exact ⟨_, found⟩

/-- A walk ends at the node that the names lead to. -/
theorem walk_eq_ok_iff (along : Along root sofar outer here) :
    walk outer here names = .ok node ↔ Leads root sofar names node := by
  induction names generalizing sofar outer here with
  | nil =>
      rw [walk, Leads, along.at?_eq, Except.ok.injEq, Option.some.injEq]
  | cons name rest ih =>
      rw [Leads, along.at?_eq]
      cases here with
      | file bytes => simp [walk]
      | folder members =>
          have folder : ∃ own, some (folder members) = some (.folder own) := ⟨members, rfl⟩
          rw [and_iff_right folder, walk_folder]
          by_cases single : name = "."
          · rw [if_pos single, resolved, if_pos single]
            exact ih along
          rw [if_neg single, resolved, if_neg single]
          by_cases double : name = ".."
          · rw [if_pos double, if_pos double]
            cases along with
            | root => exact ih .root
            | child along found =>
                rw [List.dropLast_concat]
                exact ih along
          rw [if_neg double, if_neg double]
          cases found : Entries.get? name members with
          | some child => exact ih (along.child found)
          | none =>
              refine iff_of_false nofun fun leads => ?_
              obtain ⟨start, at?_eq⟩ := leads.exists_at?
              rw [at?_append_singleton, along.at?_eq, Option.bind_some, child?, found] at at?_eq
              cases at?_eq

/-- The last name leads on from the folder that the names before it lead to. -/
theorem leads_append_singleton_iff {name : String} :
    Leads root sofar (names ++ [name]) node ↔
      (∃ members, Leads root sofar names (.folder members)) ∧
        root.at? (resolved (names.foldl resolved sofar) name) = some node := by
  induction names generalizing sofar with
  | nil => rfl
  | cons first rest ih =>
      rw [List.cons_append, Leads, ih, List.foldl_cons, ← and_assoc]
      refine and_congr_left fun _ => ?_
      simp only [Leads, exists_and_left]

/-- Names lead to a folder wherever the folders on the way are folders still. -/
theorem Leads.of_folders {other : FileNode}
    (folders : ∀ names members, root.at? names = some (.folder members) →
      ∃ members, other.at? names = some (.folder members))
    (leads : Leads root sofar names (.folder members)) :
    ∃ members, Leads other sofar names (.folder members) := by
  induction names generalizing sofar with
  | nil => exact folders sofar members leads
  | cons name rest ih =>
      obtain ⟨⟨own, found⟩, leads⟩ := leads
      obtain ⟨after, leads⟩ := ih leads
      exact ⟨after, folders sofar own found, leads⟩

/-! ## Putting a node in its place -/

/-- A node that is put under names is found under the first of them, and what stands beside it
stays. -/
theorem child?_put (node : FileNode) (name : String) (rest : List String)
    (members : List (String × FileNode)) (other : String) :
    (put node (name :: rest) (.folder members)).child? other =
      if other = name then some (put node rest ((Entries.get? name members).getD (.folder [])))
      else Entries.get? other members := by
  rw [put, child?, Entries.get?_insert]

/-- A node that is put into a folder is found there. -/
theorem at?_put {place : List String} {name : String}
    (folder : root.at? place = some (.folder members)) :
    (put node (place ++ [name]) root).at? (place ++ [name]) = some node := by
  induction place generalizing root with
  | nil =>
      cases folder
      rw [List.nil_append, at?_cons, child?_put, if_pos rfl, put]
      rfl
  | cons first rest ih =>
      rw [at?_cons, Option.bind_eq_some_iff] at folder
      obtain ⟨child, found, folder⟩ := folder
      cases root with
      | file bytes => cases found
      | folder own =>
          rw [child?] at found
          rw [List.cons_append, at?_cons, child?_put, if_pos rfl, found, Option.getD_some,
            Option.bind_some]
          exact ih folder

/-- Where there was no folder before, putting a node leaves all folders folders. -/
theorem exists_folder_put {place : List String}
    (free : ∀ members, root.at? place ≠ some (.folder members))
    (found : root.at? names = some (.folder members)) :
    ∃ members, (put node place root).at? names = some (.folder members) := by
  induction place generalizing root names with
  | nil =>
      cases root with
      | folder own => exact (free own rfl).elim
      | file bytes =>
          cases names with
          | nil => cases found
          | cons name rest => cases found
  | cons name rest ih =>
      cases root with
      | file bytes => exact ⟨members, found⟩
      | folder own =>
          cases names with
          | nil => exact ⟨_, rfl⟩
          | cons first others =>
              rw [at?_cons, Option.bind_eq_some_iff] at found
              obtain ⟨child, known, found⟩ := found
              rw [at?_cons, child?_put]
              split
              · next same =>
                  subst same
                  rw [child?] at known
                  rw [known, Option.getD_some, Option.bind_some]
                  refine ih (fun members placed => free members ?_) found
                  rw [at?_cons, child?, known, Option.bind_some, placed]
              · rw [child?] at known
                exact ⟨members, known ▸ found⟩

/-- Above the end of plain names, and at the root, there are folders. -/
theorem exists_folder_dropLast (folder : root.at? names = some (.folder members)) :
    ∃ members, root.at? names.dropLast = some (.folder members) := by
  rcases List.eq_nil_or_concat names with rfl | ⟨init, last, rfl⟩
  · exact ⟨members, folder⟩
  · rw [List.concat_eq_append, at?_append_singleton, Option.bind_eq_some_iff] at folder
    obtain ⟨above, found, inside⟩ := folder
    rw [List.concat_eq_append, List.dropLast_concat]
    cases above with
    | file bytes => cases inside
    | folder own => exact ⟨own, found⟩

end FileNode

namespace FileTree

open FileNode (resolved Leads Along)

variable {tree next : FileTree} {path : Path} {names : List String} {node : FileNode}

theorem plainNames_eq (names : List String) : plainNames names = names.foldl resolved [] :=
  rfl

/-- The node at the end of names is the one that they lead to from the root. -/
theorem nodeAt_eq_ok_iff : tree.nodeAt names = .ok node ↔ Leads tree.root [] names node :=
  FileNode.walk_eq_ok_iff .root

/-- Names under which a file may be written: those before the last one lead to a folder, and all of
them to no folder. -/
structure Writable (tree : FileTree) (names : List String) : Prop where
  above : ∃ above members last, names = above ++ [last] ∧
    tree.nodeAt above = .ok (.folder members)
  free : ∀ members, tree.root.at? (plainNames names) ≠ some (.folder members)

/-- What has been put under the names of a file is found there. -/
theorem Writable.nodeAt_put (writable : tree.Writable names) (node : FileNode) :
    (tree.put (plainNames names) node).nodeAt names = .ok node := by
  obtain ⟨⟨above, members, last, rfl, leads⟩, free⟩ := writable
  rw [nodeAt_eq_ok_iff] at leads ⊢
  have folder := leads.at?_eq
  rw [plainNames_eq, List.foldl_append, List.foldl_cons, List.foldl_nil] at free ⊢
  -- A point would lead back to a folder.
  have plain : resolved (above.foldl resolved []) last = above.foldl resolved [] ++ [last] := by
    unfold resolved at free ⊢
    split at free
    · exact (free members folder).elim
    split at free
    · obtain ⟨own, found⟩ := FileNode.exists_folder_dropLast folder
      exact (free own found).elim
    · next single double => rw [if_neg single, if_neg double]
  rw [FileNode.leads_append_singleton_iff]
  constructor
  · exact leads.of_folders fun names members found => FileNode.exists_folder_put free found
  · rw [plain]
    exact FileNode.at?_put folder

theorem namesTo_ne_nil (tree : FileTree) (nonempty : path ≠ "") : tree.namesTo path ≠ [] := by
  unfold namesTo
  split
  · exact Path.names_ne_nil nonempty
  · exact List.append_ne_nil_of_right_ne_nil _ (Path.names_ne_nil nonempty)

/-- A file that is there may be written. -/
theorem writable_of_file {bytes : ByteArray} (nonempty : names ≠ [])
    (file : tree.nodeAt names = .ok (.file bytes)) : tree.Writable names := by
  rw [nodeAt_eq_ok_iff] at file
  constructor
  · rcases List.eq_nil_or_concat names with rfl | ⟨above, last, rfl⟩
    · exact (nonempty rfl).elim
    · rw [List.concat_eq_append, FileNode.leads_append_singleton_iff] at file
      obtain ⟨members, leads⟩ := file.1
      exact ⟨above, members, last, List.concat_eq_append, nodeAt_eq_ok_iff.mpr leads⟩
  · intro members folder
    have found := file.at?_eq
    rw [← plainNames_eq, folder] at found
    cases found

/-- A file may be made in a folder, where nothing is. -/
theorem writable_of_missing {fault : FileFault} {members : List (String × FileNode)}
    (nonempty : names ≠ []) (missing : tree.nodeAt names = .error fault)
    (holder : tree.nodeAt names.dropLast = .ok (.folder members)) : tree.Writable names := by
  rcases List.eq_nil_or_concat names with rfl | ⟨above, last, rfl⟩
  · exact (nonempty rfl).elim
  rw [List.concat_eq_append, List.dropLast_concat] at *
  refine ⟨⟨above, members, last, rfl, holder⟩, fun own folder => ?_⟩
  rw [plainNames_eq, List.foldl_append] at folder
  have found : tree.nodeAt (above ++ [last]) = .ok (.folder own) := by
    rw [nodeAt_eq_ok_iff, FileNode.leads_append_singleton_iff]
    exact ⟨⟨members, nodeAt_eq_ok_iff.mp holder⟩, folder⟩
  rw [missing] at found
  cases found

/-- Plain names are given only for a path at which a file may be written. -/
theorem writable_of_writableNames {plain : List String}
    (given : tree.writableNames path = .ok plain) :
    path ≠ "" ∧ plain = plainNames (tree.namesTo path) ∧ tree.Writable (tree.namesTo path) := by
  have nonempty : path ≠ "" := by
    rintro rfl
    cases given
  have node_eq : tree.node path = tree.nodeAt (tree.namesTo path) := if_neg nonempty
  unfold writableNames at given
  rw [node_eq] at given
  dsimp only at given
  split at given
  · next bytes file =>
      cases given
      exact ⟨nonempty, rfl, writable_of_file (tree.namesTo_ne_nil nonempty) file⟩
  · cases given
  · next fault missing =>
      split at given
      · cases given
      split at given
      · next members holder =>
          split at given
          · cases given
          cases given
          exact ⟨nonempty, rfl, writable_of_missing (tree.namesTo_ne_nil nonempty) missing holder⟩
      · cases given
      · cases given

/-- **Written files are read back.** -/
theorem node_write {text : String} (written : tree.write path text = .ok next) :
    next.node path = .ok (.file text.toUTF8) := by
  rw [write, writeBytes] at written
  cases given : tree.writableNames path with
  | error fault =>
      rw [given] at written
      cases written
  | ok plain =>
      obtain ⟨nonempty, rfl, writable⟩ := writable_of_writableNames given
      rw [given] at written
      cases written
      rw [node, if_neg nonempty]
      exact writable.nodeAt_put (.file text.toUTF8)

/-- What has been written is a file. -/
theorem kind?_write {text : String} (written : tree.write path text = .ok next) :
    next.kind? path = some .file := by
  rw [kind?, node_write written]
  rfl

/-- A file made of a text is read as that text. -/
theorem readText_of_node {text : String} (found : tree.node path = .ok (.file text.toUTF8)) :
    tree.readText path = .ok text := by
  have decoded : String.fromUTF8? text.toUTF8 = some text := dif_pos text.isValidUTF8
  rw [readText, readBytes, found]
  dsimp only
  rw [decoded]

/-- A text that has been written is read back. -/
theorem readText_write {text : String} (written : tree.write path text = .ok next) :
    next.readText path = .ok text :=
  readText_of_node (node_write written)

end FileTree

end SearchCollection
