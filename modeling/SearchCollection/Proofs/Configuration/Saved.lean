import SearchCollection.Configuration.Files
import SearchCollection.Proofs.Configuration.Written
import SearchCollection.Proofs.DeclarationFile.Keyed
import SearchCollection.Proofs.Files.Written

/-! # Saved configurations are loaded back

A path that comes from expanding a tilde has none to expand (`expandTilde_expandTilde`), so a
configuration that has been loaded has no tilde left in its paths (`Configuration.Loads.settled`).
Saved to a file, such a configuration is loaded from there as it is
(`Configuration.loadedAt_of_save`), and so it is after any number of rounds
(`Configuration.Rounds.eq`).
-/

namespace SearchCollection

/-! ## Tildes -/

/-- A path that is not empty and has no tilde at its beginning, as that of a home folder. -/
def Path.Tildeless (path : Path) : Prop :=
  ∃ first rest, path.toList = first :: rest ∧ first ≠ '~'

variable {home path : Path}

theorem Path.Tildeless.append (tildeless : path.Tildeless) (more : String) :
    Tildeless (path ++ more) := by
  obtain ⟨first, rest, chars, noTilde⟩ := tildeless
  refine ⟨first, rest ++ more.toList, ?_, noTilde⟩
  rw [String.toList_append, chars, List.cons_append]

/-- A path in a folder without a tilde has none either. -/
theorem Path.Tildeless.join (tildeless : home.Tildeless) (path : Path) :
    (home.join path).Tildeless := by
  unfold Path.join
  split
  · next instead =>
      obtain ⟨first, rest, chars, noTilde⟩ := tildeless
      have nonempty : home ≠ "" := by
        rintro rfl
        cases chars
      have absolute : path.toList.head? = some '/' := by
        simpa [nonempty, isAbsolute] using instead
      obtain ⟨others, chars⟩ := List.head?_eq_some_iff.mp absolute
      exact ⟨'/', others, chars, by decide⟩
  · split
    · exact tildeless.append path
    · exact (tildeless.append "/").append path

/-- A path without a tilde is expanded to itself. -/
theorem expandTilde_of_tildeless (home : Path) (tildeless : path.Tildeless) :
    expandTilde home path = path := by
  obtain ⟨first, rest, chars, noTilde⟩ := tildeless
  unfold expandTilde
  split
  · next alone =>
      rw [chars, List.cons.injEq] at alone
      exact (noTilde alone.1).elim
  · next below =>
      rw [chars, List.cons.injEq] at below
      exact (noTilde below.1).elim
  · rfl

/-- What comes from expanding a tilde has none to expand, whichever folder is home then. -/
theorem expandTilde_expandTilde (tildeless : home.Tildeless) (other path : Path) :
    expandTilde other (expandTilde home path) = expandTilde home path := by
  rw [expandTilde.eq_def home path]
  split
  · exact expandTilde_of_tildeless other tildeless
  · exact expandTilde_of_tildeless other (tildeless.join _)
  · next alone below =>
      unfold expandTilde
      split
      · next chars => exact (alone chars).elim
      · next rest chars => exact (below rest chars).elim
      · rfl

namespace FileTree

theorem step_eq_ok_iff {change : FileTree → Except FileFault FileTree} {tree next : FileTree} :
    step change tree = (.ok (), next) ↔ change tree = .ok next := by
  unfold step
  cases change tree with
  | error fault => exact iff_of_false nofun nofun
  | ok after =>
      constructor <;> rintro ⟨⟩ <;> rfl

end FileTree

namespace Configuration

variable {configuration reloaded last : Configuration} {tree written next : FileTree}
  {paths : List Path}

/-- No path of the configuration has a tilde to expand. -/
def Settled (configuration : Configuration) : Prop :=
  ∀ home, configuration.expandPaths home = configuration

/-- A configuration whose paths are expanded has no tilde left to expand. -/
theorem settled_expandPaths (tildeless : home.Tildeless) (configuration : Configuration) :
    (configuration.expandPaths home).Settled := by
  intro other
  have kept : expandTilde other ∘ expandTilde home = expandTilde home :=
    funext fun path => expandTilde_expandTilde tildeless other path
  simp only [expandPaths, expandTilde_expandTilde tildeless, Option.map_map, kept]

/-- The configuration that stands in for a missing file has no tilde to expand. -/
theorem settled_default (tildeless : home.Tildeless) : (default home).Settled := by
  intro other
  have declarations : (default home).declarations.Tildeless :=
    (tildeless.join dataFolderName).join "schemas"
  rw [expandPaths, expandTilde_of_tildeless other declarations]
  rfl

/-- A configuration that is read has no tilde to expand. -/
theorem settled_of_read? (tildeless : home.Tildeless) {text : String}
    (read : read? home text = some configuration) : configuration.Settled := by
  obtain ⟨asWritten, -, rfl⟩ := Option.map_eq_some_iff.mp read
  exact settled_expandPaths tildeless asWritten

/-! ## Loading -/

/-- Loading the configuration at a path, in either way, with the files from before and after. -/
inductive Loads (home : Path) : Path → FileTree → Configuration → FileTree → Prop where
  | file {path : Path} {tree : FileTree} {configuration : Configuration} {events : List Event}
      {next : FileTree}
      (answered : (loadOrCreate home path : StateM FileTree _) tree =
        (⟨.ok configuration, events⟩, next)) :
      Loads home path tree configuration next
  | folder {folder : Path} {tree : FileTree} {configuration : Configuration} {next : FileTree}
      (answered : (loadFrom home folder : StateM FileTree _) tree = (.ok configuration, next)) :
      Loads home (folder.join "config.toml") tree configuration next

/-- A file is read as a configuration exactly when its text is one, and no file changes. -/
theorem readFile_eq_ok_iff :
    (readFile home path : StateM FileTree _) tree = (.ok configuration, next) ↔
      (∃ text, tree.readText path = .ok text ∧ read? home text = some configuration) ∧
        tree = next := by
  rw [readFile, FileTree.bind_apply, FileTree.readText_apply]
  cases tree.readText path with
  | error fault => exact iff_of_false nofun nofun
  | ok text =>
      dsimp only
      cases read : read? home text with
      | none =>
          refine iff_of_false nofun ?_
          rintro ⟨⟨other, same, found⟩, -⟩
          cases same
          rw [read] at found
          cases found
      | some found =>
          constructor
          · intro answered
            cases answered
            exact ⟨⟨text, rfl, read⟩, rfl⟩
          · rintro ⟨⟨other, same, found⟩, rfl⟩
            cases same
            rw [read] at found
            cases found
            rfl

/-- Where there is a file, it is only read, and nothing is logged. -/
theorem loadOrCreate_eq_ok_iff {events : List Event} {kind : PathKind}
    (present : tree.kind? path = some kind) :
    (loadOrCreate home path : StateM FileTree _) tree = (⟨.ok configuration, events⟩, next) ↔
      (readFile home path : StateM FileTree _) tree = (.ok configuration, next) ∧ events = [] := by
  rw [loadOrCreate, FileTree.bind_apply, FileTree.kind?_apply, present]
  dsimp only
  rw [FileTree.bind_apply]
  constructor
  · intro answered
    rcases read : (readFile home path : StateM FileTree _) tree with ⟨answer, after⟩
    rw [read] at answered
    cases answered
    exact ⟨rfl, rfl⟩
  · rintro ⟨read, rfl⟩
    rw [read]
    rfl

/-- A folder with a configuration file is loaded from that file. -/
theorem loadFrom_eq_readFile {folder : Path} {kind : PathKind}
    (present : tree.kind? (folder.join "config.toml") = some kind) :
    (loadFrom home folder : StateM FileTree _) tree =
      (readFile home (folder.join "config.toml") : StateM FileTree _) tree := by
  rw [loadFrom, FileTree.bind_apply, FileTree.kind?_apply, present]

/-- A folder without a configuration file is loaded as the default one, and none is written. -/
theorem loadFrom_of_none {folder : Path}
    (missing : tree.kind? (folder.join "config.toml") = none) :
    (loadFrom home folder : StateM FileTree _) tree =
      (.ok ((default home).expandPaths home), tree) := by
  rw [loadFrom, FileTree.bind_apply, FileTree.kind?_apply, missing]
  rfl

/-- Where there is no file, the answer is the default, whether it could be written or not. -/
theorem loadOrCreate_of_none (missing : tree.kind? path = none) :
    (loadOrCreate home path : StateM FileTree _) tree =
      (⟨.ok (default home),
        match (((default home).save path : StateM FileTree _) tree).1 with
        | .ok () => []
        | .error fault => [.configNotSaved path fault]⟩,
        (((default home).save path : StateM FileTree _) tree).2) := by
  rw [loadOrCreate, FileTree.bind_apply, FileTree.kind?_apply, missing]
  dsimp only
  rw [FileTree.bind_apply]
  cases (((default home).save path : StateM FileTree _) tree).1 <;> rfl

/-- What is loaded comes from the text of the file, or is the default. -/
theorem Loads.cases (loads : Loads home path tree configuration next) :
    (∃ text, tree.readText path = .ok text ∧ read? home text = some configuration) ∨
      tree.kind? path = none ∧
        (configuration = default home ∨ configuration = (default home).expandPaths home) := by
  cases loads with
  | file answered =>
      cases kind : tree.kind? path with
      | none =>
          rw [loadOrCreate_of_none kind] at answered
          cases answered
          exact .inr ⟨rfl, .inl rfl⟩
      | some present =>
          have read := ((loadOrCreate_eq_ok_iff kind).mp answered).1
          exact .inl (readFile_eq_ok_iff.mp read).1
  | @folder folder _ _ _ answered =>
      cases kind : tree.kind? (folder.join "config.toml") with
      | none =>
          rw [loadFrom_of_none kind] at answered
          cases answered
          exact .inr ⟨rfl, .inr rfl⟩
      | some present =>
          rw [loadFrom_eq_readFile kind] at answered
          exact .inl (readFile_eq_ok_iff.mp answered).1

/-- A configuration that is loaded has no tilde to expand. -/
theorem Loads.settled (tildeless : home.Tildeless)
    (loads : Loads home path tree configuration next) : configuration.Settled := by
  rcases loads.cases with ⟨text, -, read⟩ | ⟨-, rfl | rfl⟩
  · exact settled_of_read? tildeless read
  · exact settled_default tildeless
  · exact settled_expandPaths tildeless _

/-! ## Saving -/

/-- What is saved is written, after folders have been made for it. -/
theorem exists_write_of_save
    (saved : (configuration.save path : StateM FileTree _) tree = (.ok (), next)) :
    ∃ made : FileTree, made.write path configuration.write = .ok next := by
  unfold save at saved
  cases above : path.parent? with
  | none =>
      simp only [above, pure_bind] at saved
      exact ⟨tree, FileTree.step_eq_ok_iff.mp saved⟩
  | some folder =>
      rw [above] at saved
      dsimp only at saved
      rw [FileTree.bind_apply] at saved
      rcases made : (FileHost.makeFolders folder : StateM FileTree _) tree with ⟨_ | _, after⟩
      · rw [made] at saved
        cases saved
      · rw [made] at saved
        exact ⟨after, FileTree.step_eq_ok_iff.mp saved⟩

/-- The file at a path is loaded as a configuration in either way, and the files stay as they
are. -/
structure LoadedAt (home path : Path) (tree : FileTree) (configuration : Configuration) :
    Prop where
  file : (loadOrCreate home path : StateM FileTree _) tree = (⟨.ok configuration, []⟩, tree)
  folder : ∀ folder, folder.join "config.toml" = path →
    (loadFrom home folder : StateM FileTree _) tree = (.ok configuration, tree)

/-- Every way to load from a path finds the same configuration there. -/
theorem LoadedAt.eq (loaded : LoadedAt home path tree configuration)
    (loads : Loads home path tree reloaded next) : reloaded = configuration := by
  cases loads with
  | file answered =>
      rw [loaded.file] at answered
      cases answered
      rfl
  | folder answered =>
      rw [loaded.folder _ rfl] at answered
      cases answered
      rfl

/-- What is saved is loaded back with the home folder in its paths. -/
theorem loadedAt_of_save (home : Path)
    (saved : (configuration.save path : StateM FileTree _) tree = (.ok (), next)) :
    LoadedAt home path next (configuration.expandPaths home) := by
  obtain ⟨made, written⟩ := exists_write_of_save saved
  have present := FileTree.kind?_write written
  have read : (readFile home path : StateM FileTree _) next =
      (.ok (configuration.expandPaths home), next) :=
    readFile_eq_ok_iff.mpr ⟨⟨_, FileTree.readText_write written, read?_write home _⟩, rfl⟩
  constructor
  · exact (loadOrCreate_eq_ok_iff present).mpr ⟨read, rfl⟩
  · rintro folder rfl
    rw [loadFrom_eq_readFile present]
    exact read

/-- A configuration without tildes is loaded again from where it was saved. -/
theorem Settled.loadedAt_of_save (settled : configuration.Settled) (home : Path)
    (saved : (configuration.save path : StateM FileTree _) tree = (.ok (), next)) :
    LoadedAt home path next configuration := by
  have loaded := Configuration.loadedAt_of_save home saved
  rwa [settled home] at loaded

/-- Saving a configuration to paths in turn, each time going on with what is loaded from there. -/
inductive Rounds (home : Path) :
    Configuration → FileTree → List Path → Configuration → FileTree → Prop where
  | nil {configuration : Configuration} {tree : FileTree} :
      Rounds home configuration tree [] configuration tree
  | cons {configuration reloaded last : Configuration} {tree written after next : FileTree}
      {path : Path} {paths : List Path}
      (saved : (configuration.save path : StateM FileTree _) tree = (.ok (), written))
      (loads : Loads home path written reloaded after)
      (rounds : Rounds home reloaded after paths last next) :
      Rounds home configuration tree (path :: paths) last next

/-- A configuration without tildes goes through any number of rounds unchanged. -/
theorem Rounds.eq (rounds : Rounds home configuration tree paths last next)
    (settled : configuration.Settled) : last = configuration := by
  induction rounds with
  | nil => rfl
  | cons saved loads rounds ih =>
      obtain rfl := (settled.loadedAt_of_save home saved).eq loads
      exact ih settled

/-- **Saving a loaded configuration is stable.** Whatever is saved is loaded back with the home
folder in its paths. A configuration that has been loaded, in either way and from any file or from
none, is loaded back as it is, under any home folder, and so it is after any number of rounds: to
expand tildes once more changes no path, and with what is written the defaults do not matter, so
that they are not put in place of what has been saved, and what is left out stays left out. Where
there is no file, the default that is loaded is the one that is loaded again from the file made for
it. -/
theorem saved_stable {source : Path} {files after : FileTree} (tildeless : home.Tildeless)
    (loads : Loads home source files configuration after) :
    (∀ (written : Configuration) path tree next,
      (written.save path : StateM FileTree _) tree = (.ok (), next) →
      LoadedAt home path next (written.expandPaths home)) ∧
    (∀ path tree next, (configuration.save path : StateM FileTree _) tree = (.ok (), next) →
      ∀ other, LoadedAt other path next configuration) ∧
    (∀ tree paths last next, Rounds home configuration tree paths last next →
      last = configuration) ∧
    (∀ other path, expandTilde other (expandTilde home path) = expandTilde home path) ∧
    (∃ entries, Toml.read? configuration.write = some entries ∧
      ∀ other, ofEntries? other entries = some configuration) ∧
    (∀ path tree next, tree.kind? path = none →
      ((default home).save path : StateM FileTree _) tree = (.ok (), next) →
      (loadOrCreate home path : StateM FileTree _) tree = (⟨.ok (default home), []⟩, next) ∧
      LoadedAt home path next (default home)) := by
  have settled := loads.settled tildeless
  refine ⟨?_, ?_, ?_, ?_, ?_, ?_⟩
  · intro written path tree next saved
    exact loadedAt_of_save home saved
  · intro path tree next saved other
    exact settled.loadedAt_of_save other saved
  · intro tree paths last next rounds
    exact rounds.eq settled
  · exact expandTilde_expandTilde tildeless
  · exact ⟨_, configuration.read?_toml_write, fun other => ofEntries?_tables other configuration⟩
  · intro path tree next missing saved
    constructor
    · rw [loadOrCreate_of_none missing, saved]
    · exact (settled_default tildeless).loadedAt_of_save home saved

/-- A configuration as it is written, with a tilde for the home folder and with ones that stand for
themselves. -/
def withTildes : Configuration where
  declarations := "~/~/schemas"
  logFile := some "~//~user.log"

/-- A folder with the file of a configuration. -/
def withTildesFiles : FileTree where
  root := .folder [("etc", .folder [("config.toml", .file withTildes.write.toUTF8)])]

/-- A configuration loaded from a file with tildes is the same after it is saved to two more
places. -/
theorem saved_stable_withTildes :
    let loaded : Configuration :=
      { declarations := "/home/~/schemas", logFile := some "/~user.log" }
    Path.Tildeless "/home" ∧
    Loads "/home" "/etc/config.toml" withTildesFiles loaded withTildesFiles ∧
    ∃ next,
      (loaded.save "/srv/~/saved" : StateM FileTree _) withTildesFiles = (.ok (), next) ∧
      (loadOrCreate "/home" "/srv/~/saved" : StateM FileTree _) next =
        (⟨.ok loaded, []⟩, next) := by
  intro loaded
  have tildeless : Path.Tildeless "/home" := ⟨'/', ['h', 'o', 'm', 'e'], rfl, by decide⟩
  have loads : Loads "/home" "/etc/config.toml" withTildesFiles loaded withTildesFiles := by
    have text : withTildesFiles.readText "/etc/config.toml" = .ok withTildes.write :=
      FileTree.readText_of_node rfl
    have read : read? "/home" withTildes.write = some loaded := read?_write "/home" withTildes
    exact .file ((loadOrCreate_eq_ok_iff rfl).mpr
      ⟨readFile_eq_ok_iff.mpr ⟨⟨_, text, read⟩, rfl⟩, rfl⟩)
  obtain ⟨-, saved, -⟩ := saved_stable tildeless loads
  exact ⟨tildeless, loads, _, rfl, (saved "/srv/~/saved" withTildesFiles _ rfl "/home").file⟩

end Configuration

end SearchCollection
