import SearchCollection.Proofs.CommandLine.Agreement

/-! # One declaration or record at a time

A command asks one registry about all its declarations or records, and the registry keeps what it
has been asked. What is kept is what would be found anew, so each part of the output is the one
that the command gives for its declaration or record alone, and the command fails where it fails
for one of them (`CommandLine.answered_alone`). Loading only looks at files, so the records are
read from the files that the declarations were loaded from.
-/

namespace SearchCollection

namespace DeclarationFolder

variable (folder : DeclarationFolder) (tree : FileTree)

/-! ## Loading leaves the files as they are -/

/-- Loading declarations from given files changes no file. -/
theorem tree_loadFiles (types : FileRecordTypes) (paths : List Path) :
    ((folder.loadFiles types paths : StateM FileTree _) tree).2 = tree := by
  induction paths generalizing types with
  | nil => rfl
  | cons path rest ih =>
      rw [loadFiles, FileTree.bind_apply, folder.tree_loadFile tree path]
      cases ((folder.loadFile path : StateM FileTree _) tree).1 with
      | error fault => rfl
      | ok type =>
          dsimp only
          rw [FileTree.bind_apply]
          exact ih _

/-- Loading the declarations of a folder changes no file. -/
theorem tree_loadAll : ((folder.loadAll : StateM FileTree _) tree).2 = tree := by
  rw [loadAll, FileTree.bind_apply, FileTree.kind?_apply]
  split
  · rfl
  · rw [FileTree.bind_apply, FileTree.list_apply]
    cases tree.list folder.path with
    | error fault => rfl
    | ok names =>
        dsimp only
        rw [FileTree.bind_apply]
        have unchanged := folder.tree_loadFiles tree [] (folder.declarationPaths names)
        cases ((folder.loadFiles [] (folder.declarationPaths names) :
          StateM FileTree _) tree).1.answer <;> exact unchanged

/-- Loading the declarations at a path changes no file. -/
theorem tree_loadPath (path : Path) :
    ((folder.loadPath path : StateM FileTree _) tree).2 = tree := by
  rw [loadPath, FileTree.bind_apply, FileTree.kind?_apply]
  split
  · exact tree_loadAll _ tree
  · rw [FileTree.bind_apply]
    have unchanged := folder.tree_loadFile tree path
    dsimp only
    cases ((folder.loadFile path : StateM FileTree _) tree).1 <;> exact unchanged

end DeclarationFolder

namespace CommandLine

variable {configuration : Configuration} {path : Option Path} {collection : Option String}
  {tree : FileTree} {types : FileRecordTypes}

/-- Loading the declarations of a command changes no file. -/
theorem tree_loadDeclarations (configuration : Configuration) (path : Option Path)
    (collection : Option String) (tree : FileTree) :
    ((loadDeclarations configuration path collection : StateM FileTree _) tree).2 = tree := by
  rw [loadDeclarations, FileTree.bind_apply]
  exact configuration.declarationFolder.tree_loadPath tree _

/-- A named collection is chosen among all declarations. -/
theorem onTree_loadDeclarations (configuration : Configuration) (path : Option Path)
    (collection : Option String) (tree : FileTree) :
    onTree tree (loadDeclarations configuration path collection) =
      (onTree tree (loadDeclarations configuration path none)).bind fun types =>
        choose types (path.getD configuration.declarations) collection := by
  unfold onTree
  rw [loadDeclarations, loadDeclarations, FileTree.bind_apply, FileTree.bind_apply]
  cases ((configuration.declarationFolder.loadPath
    (path.getD configuration.declarations) : StateM FileTree _) tree).1.answer <;> rfl

/-- A command on declarations fails with the loading of them, and otherwise answers for what is
loaded. -/
theorem onTree_withDeclarations_eq_bind {α : Type} (configuration : Configuration)
    (path : Option Path) (collection : Option String) (tree : FileTree)
    (work : FileRecordTypes → Finding α) :
    onTree tree (withDeclarations configuration path collection work) =
      (onTree tree (loadDeclarations configuration path collection)).bind fun types =>
        (work types).answer := by
  cases loaded : onTree tree (loadDeclarations configuration path collection) with
  | ok types => exact onTree_withDeclarations loaded work
  | error failure =>
      unfold onTree at loaded ⊢
      rw [withDeclarations, FileTree.bind_apply, loaded]
      rfl

/-! ## Collections -/

/-- The collection schema of a declaration, found without a registry. -/
def compileAlone (entry : String × FileRecordType) : Except Failure Json :=
  ((assemble entry.2.toRecordType).map fun schema =>
    schema.collectionSchema.toJson).mapError (.schemaNotCompiled entry.1)

/-- The collection schema under its name. -/
def compileEntry (entry : String × FileRecordType) : Except Failure (String × Json) :=
  (compileAlone entry).map fun compiled => (entry.1, compiled)

/-- A declaration is compiled to a member exactly when that is its schema under its name. -/
theorem compileEntry_eq_ok_iff {entry : String × FileRecordType} {member : String × Json} :
    compileEntry entry = .ok member ↔
      member.1 = entry.1 ∧ compileAlone entry = .ok member.2 := by
  obtain ⟨name, compiled⟩ := member
  unfold compileEntry
  cases compileAlone entry <;> simp [Except.map, eq_comm]

/-- A declaration is compiled under its name exactly when it is compiled at all. -/
theorem exists_compileEntry_eq_error_iff {entry : String × FileRecordType} :
    (∃ failure, compileEntry entry = .error failure) ↔
      ∃ failure, compileAlone entry = .error failure := by
  unfold compileEntry
  cases compileAlone entry <;> simp [Except.map]

/-- The schemas of all declarations are an object with one member for each, or the first failure
among them. -/
theorem answer_schemas (keyed : types.Keyed) :
    (schemas types).answer =
      (types.mapM compileEntry).map fun members => .object (Entries.ofList members) := by
  have entries : (fun entry => (answerAlone
      (fun type => (assemble type).bind fun schema => .ok schema.collectionSchema)
      .schemaNotCompiled entry).map fun compiled => (compiled.1, compiled.2.toJson)) =
      compileEntry := by
    funext entry
    simp only [answerAlone, compileEntry, compileAlone]
    cases assemble entry.2.toRecordType <;> rfl
  rw [schemas, answer_collectionSchemas keyed, ← entries, ← map_mapM]
  cases types.mapM (answerAlone
    (fun type => (assemble type).bind fun schema => .ok schema.collectionSchema)
    .schemaNotCompiled) <;> rfl

/-- Compiling gives an object with a member for each of the declarations, that of the declaration
alone. -/
theorem schemas_eq_ok_iff (keyed : types.Keyed) {compiled : Json} :
    (schemas types).answer = .ok compiled ↔ ∃ members, compiled = .object members ∧
      List.Forall₂ (fun entry member => member.1 = entry.1 ∧ compileAlone entry = .ok member.2)
        types members := by
  rw [answer_schemas keyed, map_eq_ok_iff]
  simp only [mapM_eq_ok_iff, compileEntry_eq_ok_iff]
  refine exists_congr fun members => ?_
  rw [and_comm]
  refine and_congr_left fun each => ?_
  have unchanged : Entries.ofList members = members := by
    refine Entries.ofList_of_ordered ?_
    have ordered := keyed.ordered
    rw [Entries.ordered_iff] at ordered ⊢
    rwa [Entries.keys_of_forall₂ each]
  rw [unchanged, eq_comm]

/-- The schemas of all declarations fail exactly when that of one of them does. -/
theorem exists_schemas_eq_error_iff (keyed : types.Keyed) :
    (∃ failure, (schemas types).answer = .error failure) ↔
      ∃ entry ∈ types, ∃ failure, compileAlone entry = .error failure := by
  have failing (failure : Failure) : (schemas types).answer = .error failure ↔
      FirstFault compileEntry types failure := by
    rw [answer_schemas keyed, map_eq_error_iff, mapM_eq_error_iff]
  simp only [failing, exists_firstFault_iff, exists_compileEntry_eq_error_iff]

/-- The schema of a single declaration is answered under its name. -/
theorem schemas_single_eq_ok_iff {entry : String × FileRecordType}
    (keyed : FileRecordTypes.Keyed [entry]) {compiled : Json} :
    (schemas [entry]).answer = .ok (.object [(entry.1, compiled)]) ↔
      compileAlone entry = .ok compiled := by
  rw [schemas_eq_ok_iff keyed]
  constructor
  · rintro ⟨members, same, each⟩
    cases same
    cases each with
    | cons head _ => exact head.2
  · intro alone
    exact ⟨_, rfl, .cons ⟨rfl, alone⟩ .nil⟩

/-- What is compiled for a named collection is what its declaration comes to. -/
theorem compile_some_eq_ok_iff {collection : String} {compiled : Json}
    (loaded : onTree tree (loadDeclarations configuration path none) = .ok types) :
    onTree tree (compile configuration path (some collection)) =
        .ok (.object [(collection, compiled)]) ↔
      ∃ type, types.get? collection = some type ∧
        compileAlone (collection, type) = .ok compiled := by
  have keyed := keyed_of_loadDeclarations loaded
  rw [compile, onTree_withDeclarations_eq_bind, onTree_loadDeclarations, loaded]
  cases found : types.get? collection with
  | none => simp [Except.bind, choose, found]
  | some type =>
      have single := keyed.single_of_get? found
      simp only [Except.bind, choose, found, Option.some.injEq, exists_eq_left']
      exact schemas_single_eq_ok_iff single

/-- Each member of the output is what its collection is compiled to by itself. -/
theorem exists_members_of_compile {compiled : Json}
    (loaded : onTree tree (loadDeclarations configuration path none) = .ok types)
    (succeeds : onTree tree (compile configuration path none) = .ok compiled) :
    ∃ members, compiled = .object members ∧ members.map Prod.fst = types.map Prod.fst ∧
      ∀ collection entry, Entries.get? collection members = some entry ↔
        onTree tree (compile configuration path (some collection)) =
          .ok (.object [(collection, entry)]) := by
  have keyed := keyed_of_loadDeclarations loaded
  rw [compile, onTree_withDeclarations loaded, schemas_eq_ok_iff keyed] at succeeds
  obtain ⟨members, rfl, each⟩ := succeeds
  refine ⟨members, rfl, Entries.keys_of_forall₂ each, fun collection entry => ?_⟩
  have toOption (answer : Except Failure Json) :
      answer.toOption = some entry ↔ answer = .ok entry := by
    cases answer <;> simp [Except.toOption]
  rw [compile_some_eq_ok_iff loaded, Entries.get?_of_forall₂ each, Option.bind_eq_some_iff]
  simp only [toOption]

/-- Compiling fails for all declarations where it fails for one that is among them. -/
theorem exists_compile_eq_error {collection : String} {failure : Failure}
    (declared : ∀ types, onTree tree (loadDeclarations configuration path none) = .ok types →
      collection ∈ types.map Prod.fst)
    (failed : onTree tree (compile configuration path (some collection)) = .error failure) :
    ∃ other, onTree tree (compile configuration path none) = .error other := by
  cases loaded : onTree tree (loadDeclarations configuration path none) with
  | error other =>
      rw [compile, onTree_withDeclarations_eq_bind, loaded]
      exact ⟨other, rfl⟩
  | ok types =>
      have keyed := keyed_of_loadDeclarations loaded
      obtain ⟨⟨name, type⟩, member, rfl⟩ := List.mem_map.mp (declared types loaded)
      have found : types.get? name = some type :=
        (Entries.get?_eq_some_iff keyed.ordered).mpr member
      rw [compile, onTree_withDeclarations loaded, exists_schemas_eq_error_iff keyed]
      refine ⟨(name, type), member, ?_⟩
      cases alone : compileAlone (name, type) with
      | error other => exact ⟨other, rfl⟩
      | ok compiled =>
          rw [(compile_some_eq_ok_iff loaded).mpr ⟨type, found, alone⟩] at failed
          cases failed

/-! ## Records -/

section Records

variable {among : RecordType → Prop} {registry : Registry} {type : FileRecordType}
  {record input : Json} {records : List Json} {file declarations : Path}

/-- The document of a record, found without a registry. -/
def documentAlone (type : FileRecordType) (record : Json) : Except Fault Json :=
  match AttributeRecord.ofJson record type.primaryKey type.instants with
  | .error fault => .error fault
  | .ok record =>
      (assemble type.toRecordType).map fun schema => .object (schema.document record.toRecord)

/-- The document from a sound registry is the one found without a registry. -/
theorem documentOf_faithful (consistent : Consistent among)
    (sound : Registry.Sound among registry) (member : among type.toRecordType) (record : Json) :
    (documentOf registry type record).Faithful among id (documentAlone type record) := by
  unfold documentOf documentAlone
  cases AttributeRecord.ofJson record type.primaryKey type.instants with
  | error fault => exact ⟨sound, rfl⟩
  | ok read =>
      have faithful := Registry.document_faithful consistent sound member read.toRecord
      refine ⟨faithful.sound, ?_⟩
      simp only [Registry.Outcome.andThen, faithful.answer_eq]
      cases assemble type.toRecordType <;> rfl

/-- Each record is turned into the document that it has alone, up to the first fault. -/
theorem answer_documentsOf (consistent : Consistent among)
    (sound : Registry.Sound among registry) (member : among type.toRecordType)
    (records : List Json) :
    (documentsOf registry type records).answer =
      records.mapM fun record => (documentAlone type record).mapError .notAnswered := by
  induction records generalizing registry with
  | nil => rfl
  | cons record rest ih =>
      have head := documentOf_faithful consistent sound member record
      rw [documentsOf, List.mapM_cons]
      simp only [head.answer_eq, ih head.sound]
      cases documentAlone type record with
      | error fault => rfl
      | ok document =>
          cases rest.mapM fun record =>
            (documentAlone type record).mapError Failure.notAnswered <;> rfl

/-- A single record type does not contradict itself. -/
theorem consistent_eq (type : RecordType) : Consistent (· = type) := by
  rintro _ _ rfl rfl _
  rfl

/-- A list of records is answered by the list of their documents, or by the first fault. -/
theorem answer_documents_array (type : FileRecordType) (records : List Json) :
    (documents type (.array records)).answer =
      (records.mapM fun record => (documentAlone type record).mapError Failure.notAnswered).map
        .array := by
  rw [← answer_documentsOf (consistent_eq type.toRecordType) (Registry.sound_empty _) rfl]
  rfl

/-- A record that is no list is answered by its document. -/
theorem answer_documents_single (type : FileRecordType) (single : record.kind ≠ .array) :
    (documents type record).answer = (documentAlone type record).mapError .notAnswered := by
  rw [← (documentOf_faithful (consistent_eq type.toRecordType) (Registry.sound_empty _) rfl
    record).answer_eq]
  cases record with
  | array records => exact (single rfl).elim
  | _ => rfl

/-- Documents are made of the input in the file by the record type alone that is declared. -/
structure Supplies (configuration : Configuration) (declarations : Path)
    (collection : Option String) (type : FileRecordType) (input : Json) (tree : FileTree)
    (file : Path) : Prop where
  declared : (onTree tree (loadDeclarations configuration (some declarations) collection)).bind
    (fun types => onlyType types declarations) = .ok type
  read : ((readRecords file : StateM FileTree _) tree).1 = .ok input

/-- A command on a file answers for the record type and the input that the files supply. -/
theorem Supplies.onTree_document
    (supplies : Supplies configuration declarations collection type input tree file) :
    onTree tree (document configuration declarations collection file) =
      (documents type input).answer := by
  obtain ⟨declared, read⟩ := supplies
  unfold onTree at declared ⊢
  rw [document, FileTree.bind_apply, tree_loadDeclarations]
  cases loaded : ((loadDeclarations configuration (some declarations) collection :
      StateM FileTree _) tree).1.answer with
  | error failure =>
      rw [loaded] at declared
      cases declared
  | ok types =>
      rw [loaded] at declared
      have only : onlyType types declarations = .ok type := declared
      simp only [Except.bind, only]
      rw [FileTree.bind_apply, read]
      rfl

variable {alone : Json → FileTree × Path}

/-- An array of records comes to what the records come to alone. -/
theorem onTree_document_array (singles : ∀ record ∈ records, record.kind ≠ .array)
    (supplies : Supplies configuration declarations collection type (.array records) tree file)
    (each : ∀ record ∈ records,
      Supplies configuration declarations collection type record (alone record).1
        (alone record).2) :
    onTree tree (document configuration declarations collection file) =
      (records.mapM fun record => onTree (alone record).1
        (document configuration declarations collection (alone record).2)).map .array := by
  rw [supplies.onTree_document, answer_documents_array]
  refine congrArg (Except.map Json.array) (mapM_congr fun record member => ?_)
  rw [(each record member).onTree_document, answer_documents_single type (singles record member)]

end Records

/-- **Sharing a registry changes no output.** For the declarations of a path, compiling all of them
gives each collection what compiling it by itself gives, and fails where that fails for one that is
declared. An array of records, none of which is an array, is turned into the documents that its
records have alone, wherever these are read from, or fails with the first of their failures. -/
theorem answered_alone (configuration : Configuration) :
    (∀ path tree compiled,
      onTree tree (compile configuration path none) = .ok compiled →
      ∃ types members, onTree tree (loadDeclarations configuration path none) = .ok types ∧
        compiled = .object members ∧ members.map Prod.fst = types.map Prod.fst ∧
        ∀ collection entry, Entries.get? collection members = some entry ↔
          onTree tree (compile configuration path (some collection)) =
            .ok (.object [(collection, entry)])) ∧
    (∀ path tree collection failure,
      (∀ types, onTree tree (loadDeclarations configuration path none) = .ok types →
        collection ∈ types.map Prod.fst) →
      onTree tree (compile configuration path (some collection)) = .error failure →
      ∃ other, onTree tree (compile configuration path none) = .error other) ∧
    ∀ declarations collection type records tree file, ∀ alone : Json → FileTree × Path,
      (∀ record ∈ records, record.kind ≠ .array) →
      Supplies configuration declarations collection type (.array records) tree file →
      (∀ record ∈ records, Supplies configuration declarations collection type record
        (alone record).1 (alone record).2) →
      (∀ built, onTree tree (document configuration declarations collection file) = .ok built ↔
        ∃ documents, built = .array documents ∧
          List.Forall₂ (fun record single => onTree (alone record).1
            (document configuration declarations collection (alone record).2) = .ok single)
            records documents) ∧
      (∀ failure,
        onTree tree (document configuration declarations collection file) = .error failure ↔
          FirstFault (fun record => onTree (alone record).1
            (document configuration declarations collection (alone record).2)) records failure) ∧
      ((∃ failure,
        onTree tree (document configuration declarations collection file) = .error failure) ↔
          ∃ record ∈ records, ∃ failure, onTree (alone record).1
            (document configuration declarations collection (alone record).2) =
              .error failure) := by
  refine ⟨?_, fun path tree collection failure => exists_compile_eq_error, ?_⟩
  · intro path tree compiled succeeds
    cases loaded : onTree tree (loadDeclarations configuration path none) with
    | error failure =>
        rw [compile, onTree_withDeclarations_eq_bind, loaded] at succeeds
        cases succeeds
    | ok types =>
        obtain ⟨members, same, keys, entries⟩ := exists_members_of_compile loaded succeeds
        exact ⟨types, members, rfl, same, keys, entries⟩
  · intro declarations collection type records tree file alone singles supplies each
    have whole := onTree_document_array singles supplies each
    have fails (failure : Failure) :
        onTree tree (document configuration declarations collection file) = .error failure ↔
          FirstFault (fun record => onTree (alone record).1
            (document configuration declarations collection (alone record).2)) records failure := by
      rw [whole, map_eq_error_iff, mapM_eq_error_iff]
    refine ⟨fun built => ?_, fails, ?_⟩
    · rw [whole, map_eq_ok_iff]
      simp only [mapM_eq_ok_iff, and_comm, eq_comm (b := built)]
    · simp only [fails, exists_firstFault_iff]

/-- Albums have a title. -/
def albumFile : DeclarationFile where
  collection := "Album"
  schema := some (.mapping [(.string "title", .string "string")])

def listedAlbum : FileRecordType :=
  .ofFile albumFile {} (some "album.yaml")

/-- The text of the file. -/
def albumText : String :=
  "\x7b\"collection\": \"Album\", \"schema\": \x7b\"title\": \"string\"\x7d\x7d"

/-- A folder with the file and two records, together and one by one. -/
def shelf : FileTree where
  root := .folder
    [("album.yaml", .file albumText.toUTF8),
      ("both.json", .file "[\x7b\"title\":\"A\"\x7d,\x7b\x7d]".toUTF8),
      ("titled.json", .file "\x7b\"title\":\"A\"\x7d".toUTF8),
      ("untitled.json", .file "\x7b\x7d".toUTF8)]

/-- The file on the shelf declares the album and nothing else. -/
theorem loadDeclarations_shelf :
    onTree shelf (loadDeclarations { declarations := "" } (some "album.yaml") none) =
      .ok [("Album", listedAlbum)] := by
  have kind : shelf.kind? "album.yaml" = some .file := rfl
  have text : shelf.readText "album.yaml" = .ok albumText := rfl
  have read : DeclarationFile.read albumText = .ok albumFile := by
    rw [DeclarationFile.read, Yaml.Document.ofString?, Yaml.Token.ofString?_eq_runWithin?]
    rfl
  exact onTree_loadDeclarations_file kind text read

theorem read_shelf :
    Json.read? "[\x7b\"title\":\"A\"\x7d,\x7b\x7d]" =
        some (.array [.object [("title", .string "A")], .object []]) ∧
      Json.read? "\x7b\"title\":\"A\"\x7d" = some (.object [("title", .string "A")]) ∧
      Json.read? "\x7b\x7d" = some (.object []) := by
  simp [Json.read?, Json.Token.ofChars?, Json.Token.span?, Json.Token.isSpace,
    Json.Token.spanString?, Json.Progress.step?, Json.Progress.beginValue?,
    Json.Progress.endValue?, Json.Progress.finish?, Json.Progress.start, Json.maxDepth,
    Entries.insert]

/-- Every input on the shelf is supplied with the record type of the album. -/
theorem supplies_shelf {file : Path} {text : String} {input : Json}
    (held : shelf.readText file = .ok text) (read : Json.read? text = some input) :
    Supplies { declarations := "" } "album.yaml" none listedAlbum input shelf file where
  declared := by
    rw [loadDeclarations_shelf]
    rfl
  read := by
    rw [readRecords, FileTree.bind_apply, FileTree.readText_apply, held]
    dsimp only
    rw [read]
    rfl

/-- The tree and the file for each of the two records. -/
def shelfFile : Json → FileTree × Path
  | .object [] => (shelf, "untitled.json")
  | _ => (shelf, "titled.json")

/-- The album is compiled, and a record with a title and one without are answered together as they
are one by one. -/
theorem answered_alone_shelf :
    onTree shelf (compile { declarations := "" } (some "album.yaml") (some "Album")) =
      .ok (.object [("Album", .object [("fields", .array
        [.object [("name", .string "title"), ("type", .string "string")],
          .object [("name", .string "id"), ("type", .string "string")]])])]) ∧
    (∃ failure, onTree desk (compile { declarations := "" } (some "volume.yaml") none) =
      .error failure) ∧
    onTree shelf (document { declarations := "" } "album.yaml" none "both.json") =
      .ok (.array [.object [("id", .string ""), ("title", .string "A")],
        .object [("id", .string ""), ("title", .string "")]]) := by
  obtain ⟨compiled, refused, documented⟩ := answered_alone { declarations := "" }
  refine ⟨?_, ?_, ?_⟩
  · have all : onTree shelf (compile { declarations := "" } (some "album.yaml") none) = _ :=
      onTree_withDeclarations loadDeclarations_shelf schemas
    obtain ⟨types, members, -, same, -, entries⟩ := compiled (some "album.yaml") shelf _ all
    refine (entries "Album" _).mp ?_
    rw [← Json.object.inj same]
    rfl
  · have failed : onTree desk
        (compile { declarations := "" } (some "volume.yaml") (some "Volume")) =
          .error (.schemaNotCompiled "Volume" galleyFault) := by
      rw [compile, onTree_withDeclarations_eq_bind, onTree_loadDeclarations, loadDeclarations_desk]
      rfl
    refine refused (some "volume.yaml") desk "Volume" _ ?_ failed
    intro types loaded
    rw [loadDeclarations_desk] at loaded
    cases loaded
    exact List.mem_cons_self
  · obtain ⟨readBoth, readTitled, readUntitled⟩ := read_shelf
    have both : Supplies { declarations := "" } "album.yaml" none listedAlbum
        (.array [.object [("title", .string "A")], .object []]) shelf "both.json" :=
      supplies_shelf rfl readBoth
    have titled : Supplies { declarations := "" } "album.yaml" none listedAlbum
        (.object [("title", .string "A")]) shelf "titled.json" :=
      supplies_shelf rfl readTitled
    have untitled : Supplies { declarations := "" } "album.yaml" none listedAlbum
        (.object []) shelf "untitled.json" :=
      supplies_shelf rfl readUntitled
    obtain ⟨built, -, -⟩ := documented "album.yaml" none listedAlbum _ shelf "both.json" shelfFile
      (by simp [Json.kind]) both
      (List.forall_mem_cons.mpr ⟨titled, List.forall_mem_cons.mpr ⟨untitled, by simp⟩⟩)
    refine (built _).mpr ⟨_, rfl, .cons ?_ (.cons ?_ .nil)⟩
    · exact titled.onTree_document.trans rfl
    · exact untitled.onTree_document.trans rfl

end CommandLine

end SearchCollection
