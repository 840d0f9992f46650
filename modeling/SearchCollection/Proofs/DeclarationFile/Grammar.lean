import SearchCollection.Proofs.Declaration
import SearchCollection.Proofs.Options.Notations
import SearchCollection.Proofs.Traversal

/-! # The grammar of declarations in files

Which trees declare something, and what, is given by relations that follow the shape of a tree:
`Yaml.HasText` for keys, `Yaml.HasValue` for the values inside an option, `Yaml.HasOption` for whole
options. Beside each stands the relation that gives the fault of a tree that declares nothing; in a
list or a mapping that is the fault of the first part at fault (`FirstBad`).

Each function that reads a tree answers what the relations say (`Answers`). For a list this follows
from the same fact about its items (`Answers.mapM`), so each function takes one lemma, and
`declared_by_grammar` puts them together.
-/

namespace SearchCollection

namespace Yaml

/-! ## The grammar -/

/-- A string, a number or a Boolean has a text. -/
inductive HasText : Yaml → String → Prop
  | scalar {tree : Yaml} {text : String} (reads : tree.ReadsAs text) : HasText tree text
  | true : HasText (.bool Bool.true) "true"
  | false : HasText (.bool Bool.false) "false"

/-- A Boolean stays one, a string and a number have their texts as values, and a sequence has the
list of the values of its items. -/
inductive HasValue : Yaml → OptionValue → Prop
  | bool (value : Bool) : HasValue (.bool value) (.bool value)
  | text {tree : Yaml} {text : String} (reads : tree.ReadsAs text) : HasValue tree (.text text)
  | sequence {items : List Yaml} {values : List OptionValue}
      (each : List.Forall₂ HasValue items values) : HasValue (.sequence items) (.list values)

/-- Null, mappings and tagged trees have no value, nor has a sequence with one of them. -/
inductive LacksValue : Yaml → OptionFault → Prop
  | null : LacksValue .null (.value .null)
  | mapping (members : List (Yaml × Yaml)) : LacksValue (.mapping members) (.value .mapping)
  | tagged (tag : String) (content : Yaml) : LacksValue (.tagged tag content) (.value .tagged)
  | sequence {items : List Yaml} {fault : OptionFault}
      (bad : FirstBad HasValue LacksValue items fault) : LacksValue (.sequence items) fault

/-- A key and a value make an entry with a key. -/
inductive HasEntry : Yaml × Yaml → OptionEntry → Prop
  | keyed {key tree : Yaml} {name : String} {value : OptionValue} (named : key.HasText name)
      (given : tree.HasValue value) : HasEntry (key, tree) (.keyed name value)

/-- A key without a text makes no entry, whatever its value, and neither does a key with something
that has no value. -/
inductive LacksEntry : Yaml × Yaml → OptionFault → Prop
  | key {key : Yaml} (tree : Yaml) (nameless : ∀ name, ¬key.HasText name) :
      LacksEntry (key, tree) (.key key.kind)
  | value {key tree : Yaml} {name : String} {fault : OptionFault} (named : key.HasText name)
      (bad : tree.LacksValue fault) : LacksEntry (key, tree) fault

/-- An item of a list makes an entry without a key, or the entries of a mapping in their order. -/
inductive HasEntries : Yaml → List OptionEntry → Prop
  | positional {item : Yaml} {value : OptionValue} (given : item.HasValue value) :
      HasEntries item [.positional value]
  | mapping {members : List (Yaml × Yaml)} {entries : List OptionEntry}
      (each : List.Forall₂ HasEntry members entries) : HasEntries (.mapping members) entries

/-- An item of a list makes no entries for want of a value, or as a mapping with a bad member. -/
inductive LacksEntries : Yaml → OptionFault → Prop
  | positional {item : Yaml} {fault : OptionFault} (single : item.kind ≠ .mapping)
      (bad : item.LacksValue fault) : LacksEntries item fault
  | mapping {members : List (Yaml × Yaml)} {fault : OptionFault}
      (bad : FirstBad HasEntry LacksEntry members fault) : LacksEntries (.mapping members) fault

/-- A Boolean, a string, a number, a sequence and a mapping can be the option of a field. A
sequence collects the entries of its items in their order. -/
inductive HasOption : Yaml → FieldOption → Prop
  | bool (value : Bool) : HasOption (.bool value) (.flag value)
  | tokens {tree : Yaml} {text : String} (reads : tree.ReadsAs text) : HasOption tree (.tokens text)
  | sequence {items : List Yaml} {groups : List (List OptionEntry)}
      (each : List.Forall₂ HasEntries items groups) :
      HasOption (.sequence items) (.list groups.flatten)
  | mapping {members : List (Yaml × Yaml)} {entries : List OptionEntry}
      (each : List.Forall₂ HasEntry members entries) :
      HasOption (.mapping members) (.list entries)

/-- Null and tagged trees are no option, nor is a sequence or a mapping with a bad part. -/
inductive LacksOption : Yaml → OptionFault → Prop
  | null : LacksOption .null (.option .null)
  | tagged (tag : String) (content : Yaml) : LacksOption (.tagged tag content) (.option .tagged)
  | sequence {items : List Yaml} {fault : OptionFault}
      (bad : FirstBad HasEntries LacksEntries items fault) : LacksOption (.sequence items) fault
  | mapping {members : List (Yaml × Yaml)} {fault : OptionFault}
      (bad : FirstBad HasEntry LacksEntry members fault) : LacksOption (.mapping members) fault

/-- The member of a declaration gives an option to the text of its key. -/
def Declares (member : Yaml × Yaml) (entry : String × FieldOption) : Prop :=
  member.1.HasText entry.1 ∧ member.2.HasOption entry.2

/-- A member declares a field exactly when its key has a text and its value is an option. -/
theorem exists_declares_iff {member : Yaml × Yaml} : (∃ entry, Declares member entry) ↔
    (∃ name, member.1.HasText name) ∧ ∃ option, member.2.HasOption option := by
  constructor
  · rintro ⟨entry, named, given⟩
    exact ⟨⟨entry.1, named⟩, entry.2, given⟩
  · rintro ⟨⟨name, named⟩, option, given⟩
    exact ⟨(name, option), named, given⟩

/-- The member of a declaration is at fault for its key or, under the text of its key, for its
option. -/
inductive Misdeclares : Yaml × Yaml → DeclarationFault → Prop
  | key {key : Yaml} (tree : Yaml) (nameless : ∀ name, ¬key.HasText name) :
      Misdeclares (key, tree) (.notAMapping (.key key.kind))
  | option {key tree : Yaml} {name : String} {reason : OptionFault} (named : key.HasText name)
      (bad : tree.LacksOption reason) : Misdeclares (key, tree) (.unsupportedOption name reason)

/-! ## Reading by the grammar -/

variable {key : Yaml} {text : String}

/-- The reader finds the text that a key has. -/
theorem scalarText?_eq_some_iff : key.scalarText? = some text ↔ key.HasText text := by
  constructor
  · intro found
    cases key with
    | string value => exact Option.some.inj found ▸ .scalar (.string value)
    | number value => exact Option.some.inj found ▸ .scalar (.number value)
    | bool value =>
        cases value <;> cases found
        · exact .false
        · exact .true
    | null => cases found
    | sequence items => cases found
    | mapping members => cases found
    | tagged tag content => cases found
  · intro named
    cases named with
    | scalar reads => exact reads.scalarText?_eq
    | true => rfl
    | false => rfl

theorem scalarText?_eq_none_iff : key.scalarText? = none ↔ ∀ text, ¬key.HasText text := by
  simp only [Option.eq_none_iff_forall_ne_some, Ne, scalarText?_eq_some_iff]

/-- A key has one text at most. -/
theorem HasText.eq {other : String} (first : key.HasText text) (second : key.HasText other) :
    other = text := by
  rw [← scalarText?_eq_some_iff] at first second
  exact Option.some.inj (second.symm.trans first)

section UnderKey

variable {β ε : Type}

/-- What is read for the text of a key, or else the fault of the key. -/
def underKey (key : Yaml) (nameless : Kind → ε) (read : String → Except ε β) : Except ε β :=
  match key.scalarText? with
  | none => .error (nameless key.kind)
  | some name => read name

/-- What is read under a key is right where it is under each text that the key may have. -/
theorem answers_underKey {nameless : Kind → ε} {read : String → Except ε β}
    {good : String → β → Prop} {bad : String → ε → Prop}
    (each : ∀ name, Answers (read name) (good name) (bad name)) :
    Answers (underKey key nameless read) (fun result => ∃ name, key.HasText name ∧ good name result)
      fun fault => (∀ name, ¬key.HasText name) ∧ nameless key.kind = fault ∨
        ∃ name, key.HasText name ∧ bad name fault := by
  unfold underKey
  cases found : key.scalarText? with
  | none =>
      have absent := scalarText?_eq_none_iff.mp found
      refine .of_error (.inl ⟨absent, rfl⟩) ?_ ?_
      · rintro other (⟨-, rfl⟩ | ⟨name, named, -⟩)
        · rfl
        · exact (absent name named).elim
      · rintro result ⟨name, named, -⟩
        exact absent name named
  | some name =>
      have named := scalarText?_eq_some_iff.mp found
      refine (each name).congr ?_ ?_
      · intro result
        refine ⟨fun right => ⟨name, named, right⟩, ?_⟩
        rintro ⟨other, same, right⟩
        exact named.eq same ▸ right
      · intro fault
        refine ⟨fun right => .inr ⟨name, named, right⟩, ?_⟩
        rintro (⟨absent, -⟩ | ⟨other, same, right⟩)
        · exact (absent name named).elim
        · exact named.eq same ▸ right

end UnderKey

theorem optionValues_eq_mapM (items : List Yaml) : optionValues items = items.mapM optionValue := by
  induction items with
  | nil => rfl
  | cons item rest ih =>
      rw [optionValues, ih, List.mapM_cons]

mutual

/-- An option value is read by the grammar. -/
theorem answers_optionValue :
    (tree : Yaml) → Answers (optionValue tree) tree.HasValue tree.LacksValue
  | .bool value => .of_ok (.bool value) (by rintro _ (_ | ⟨⟨⟩⟩); rfl) nofun
  | .string text => .of_ok (.text (.string text)) (by rintro _ (_ | ⟨⟨⟩⟩); rfl) nofun
  | .number value => .of_ok (.text (.number value)) (by rintro _ (_ | ⟨⟨⟩⟩); rfl) nofun
  | .null => .of_error .null (by rintro _ ⟨⟩; rfl) nofun
  | .mapping members => .of_error (.mapping members) (by rintro _ ⟨⟩; rfl) nofun
  | .tagged tag content => .of_error (.tagged tag content) (by rintro _ ⟨⟩; rfl) nofun
  | .sequence items => by
      have each := (Answers.mapM (answers_optionValues items)).map OptionValue.list
      rw [← optionValues_eq_mapM] at each
      rw [optionValue]
      refine each.congr ?_ ?_
      · intro value
        constructor
        · rintro ⟨values, given, rfl⟩
          exact .sequence given
        · intro read
          cases read with
          | text reads => cases reads
          | sequence given => exact ⟨_, given, rfl⟩
      · intro fault
        exact ⟨.sequence, fun | .sequence bad => bad⟩

/-- Each item of a sequence is read by the grammar. -/
theorem answers_optionValues :
    (items : List Yaml) → ∀ item ∈ items, Answers (optionValue item) item.HasValue item.LacksValue
  | [] => nofun
  | item :: rest => List.forall_mem_cons.mpr ⟨answers_optionValue item, answers_optionValues rest⟩

end

/-- The entry that a member of a mapping makes in an option. -/
def keyedEntry (member : Yaml × Yaml) : Except OptionFault OptionEntry :=
  underKey member.1 .key fun name => (optionValue member.2).map (.keyed name)

theorem keyedEntries_eq_mapM (members : List (Yaml × Yaml)) :
    keyedEntries members = members.mapM keyedEntry := by
  induction members with
  | nil => rfl
  | cons member rest ih =>
      rw [keyedEntries, ih, List.mapM_cons, keyedEntry, underKey]
      cases member.1.scalarText? with
      | none => rfl
      | some name => cases optionValue member.2 <;> rfl

/-- A member of a mapping is read by the grammar. -/
theorem answers_keyedEntry (member : Yaml × Yaml) :
    Answers (keyedEntry member) (HasEntry member) (LacksEntry member) := by
  refine (answers_underKey fun name =>
    (answers_optionValue member.2).map (OptionEntry.keyed name)).congr ?_ ?_
  · intro entry
    constructor
    · rintro ⟨name, named, value, given, rfl⟩
      exact .keyed named given
    · rintro ⟨named, given⟩
      exact ⟨_, named, _, given, rfl⟩
  · intro fault
    constructor
    · rintro (⟨nameless, rfl⟩ | ⟨name, named, bad⟩)
      · exact .key member.2 nameless
      · exact .value named bad
    · rintro (⟨_, nameless⟩ | ⟨named, bad⟩)
      · exact .inl ⟨nameless, rfl⟩
      · exact .inr ⟨_, named, bad⟩

/-- The members of a mapping are read by the grammar, up to the first bad one. -/
theorem answers_keyedEntries (members : List (Yaml × Yaml)) :
    Answers (keyedEntries members) (List.Forall₂ HasEntry members)
      (FirstBad HasEntry LacksEntry members) := by
  rw [keyedEntries_eq_mapM]
  exact .mapM fun member _ => answers_keyedEntry member

/-- An item that is no mapping makes one entry without a key. -/
theorem itemEntries_of_single {item : Yaml} (single : item.kind ≠ .mapping) :
    itemEntries item = (optionValue item).map fun value => [.positional value] := by
  cases item with
  | mapping members => exact (single rfl).elim
  | _ => rfl

/-- An item of a list is read by the grammar. -/
theorem answers_itemEntries (item : Yaml) :
    Answers (itemEntries item) (HasEntries item) (LacksEntries item) := by
  by_cases single : item.kind = .mapping
  · cases item <;> cases single
    refine (answers_keyedEntries _).congr ?_ ?_
    · intro entries
      constructor
      · exact .mapping
      · intro made
        cases made with
        | positional given =>
            cases given with
            | text reads => cases reads
        | mapping each => exact each
    · intro fault
      constructor
      · exact .mapping
      · rintro (⟨single, -⟩ | bad)
        · exact (single rfl).elim
        · exact bad
  · rw [itemEntries_of_single single]
    refine ((answers_optionValue item).map fun value => [OptionEntry.positional value]).congr ?_ ?_
    · intro entries
      constructor
      · rintro ⟨value, given, rfl⟩
        exact .positional given
      · rintro (given | _)
        · exact ⟨_, given, rfl⟩
        · exact (single rfl).elim
    · intro fault
      constructor
      · exact .positional single
      · rintro (⟨-, bad⟩ | _)
        · exact bad
        · exact (single rfl).elim

theorem listEntries_eq_mapM (items : List Yaml) :
    listEntries items = (items.mapM itemEntries).map List.flatten := by
  induction items with
  | nil => rfl
  | cons item rest ih =>
      rw [listEntries, ih, List.mapM_cons]
      cases itemEntries item with
      | error fault => rfl
      | ok first => cases rest.mapM itemEntries <;> rfl

/-- The option of a field is read by the grammar. -/
theorem answers_fieldOption :
    (tree : Yaml) → Answers (fieldOption tree) tree.HasOption tree.LacksOption
  | .bool value => .of_ok (.bool value) (by rintro _ (_ | ⟨⟨⟩⟩); rfl) nofun
  | .string text => .of_ok (.tokens (.string text)) (by rintro _ (_ | ⟨⟨⟩⟩); rfl) nofun
  | .number value => .of_ok (.tokens (.number value)) (by rintro _ (_ | ⟨⟨⟩⟩); rfl) nofun
  | .null => .of_error .null (by rintro _ ⟨⟩; rfl) nofun
  | .tagged tag content => .of_error (.tagged tag content) (by rintro _ ⟨⟩; rfl) nofun
  | .sequence items => by
      have each : Answers (items.mapM itemEntries) (List.Forall₂ HasEntries items)
          (FirstBad HasEntries LacksEntries items) := .mapM fun item _ => answers_itemEntries item
      have made := (each.map List.flatten).map FieldOption.list
      rw [← listEntries_eq_mapM] at made
      refine made.congr ?_ ?_
      · intro option
        constructor
        · rintro ⟨_, ⟨groups, given, rfl⟩, rfl⟩
          exact .sequence given
        · intro read
          cases read with
          | tokens reads => cases reads
          | sequence given => exact ⟨_, ⟨_, given, rfl⟩, rfl⟩
      · intro fault
        exact ⟨.sequence, fun | .sequence bad => bad⟩
  | .mapping members => by
      refine ((answers_keyedEntries members).map FieldOption.list).congr ?_ ?_
      · intro option
        constructor
        · rintro ⟨entries, given, rfl⟩
          exact .mapping given
        · intro read
          cases read with
          | tokens reads => cases reads
          | mapping given => exact ⟨_, given, rfl⟩
      · intro fault
        exact ⟨.mapping, fun | .mapping bad => bad⟩

/-- The name and the option that a member of a declaration gives. -/
def declarationEntry (member : Yaml × Yaml) : Except DeclarationFault (String × FieldOption) :=
  underKey member.1 (fun kind => .notAMapping (.key kind)) fun name =>
    ((fieldOption member.2).mapError (.unsupportedOption name)).map fun option => (name, option)

theorem declarationEntries_eq_mapM (members : List (Yaml × Yaml)) :
    declarationEntries members = members.mapM declarationEntry := by
  induction members with
  | nil => rfl
  | cons member rest ih =>
      rw [declarationEntries, ih, List.mapM_cons, declarationEntry, underKey]
      cases member.1.scalarText? with
      | none => rfl
      | some name => cases fieldOption member.2 <;> rfl

/-- A member of a declaration is read by the grammar. -/
theorem answers_declarationEntry (member : Yaml × Yaml) :
    Answers (declarationEntry member) (Declares member) (Misdeclares member) := by
  refine (answers_underKey fun name => ((answers_fieldOption member.2).mapError
    (DeclarationFault.unsupportedOption name)).map fun option => (name, option)).congr ?_ ?_
  · intro entry
    constructor
    · rintro ⟨name, named, option, given, rfl⟩
      exact ⟨named, given⟩
    · rintro ⟨named, given⟩
      exact ⟨_, named, _, given, rfl⟩
  · intro fault
    constructor
    · rintro (⟨nameless, rfl⟩ | ⟨name, named, reason, bad, rfl⟩)
      · exact .key member.2 nameless
      · exact .option named bad
    · rintro (⟨_, nameless⟩ | ⟨named, bad⟩)
      · exact .inl ⟨nameless, rfl⟩
      · exact .inr ⟨_, named, _, bad, rfl⟩

/-- The members of a declaration are read by the grammar, up to the first bad one. -/
theorem answers_declarationEntries (members : List (Yaml × Yaml)) :
    Answers (declarationEntries members) (List.Forall₂ Declares members)
      (FirstBad Declares Misdeclares members) := by
  rw [declarationEntries_eq_mapM]
  exact .mapM fun member _ => answers_declarationEntry member

/-- The grammar gives one list of entries to a mapping at most. -/
theorem declares_unique {members : List (Yaml × Yaml)}
    {entries others : List (String × FieldOption)} (each : List.Forall₂ Declares members entries)
    (eachOther : List.Forall₂ Declares members others) : entries = others :=
  (answers_declarationEntries members).unique each eachOther

/-- The declaration of a mapping is read by the grammar. -/
theorem answers_declaration (members : List (Yaml × Yaml)) :
    Answers (declaration (some (.mapping members)))
      (fun declared => ∃ entries, List.Forall₂ Declares members entries ∧
        .ofList entries = declared)
      (FirstBad Declares Misdeclares members) :=
  (answers_declarationEntries members).map Declaration.ofList

end Yaml

/-- **Declarations in files follow a grammar.** A file without a tree declares nothing, and a tree
that is no mapping is refused as what it is. A mapping is accepted exactly when each key has a text
and each value is an option. The names of the declaration are then the texts of the keys, each once
and in the order in which they first came, and each name has the option of the last key with that
text. A mapping that is refused is refused for its first bad member, under the name of the record
type and, where the option is bad, that of the field. -/
theorem declared_by_grammar (type : FileRecordType) :
    (type.schema = none ∨ type.schema = some .null →
      type.toRecordType.declared = .error (.declaration type.name .notDefined)) ∧
    (∀ tree, type.schema = some tree → tree.kind ≠ .null → tree.kind ≠ .mapping →
      type.toRecordType.declared =
        .error (.declaration type.name (.notAMapping (.tree tree.kind)))) ∧
    ∀ members, type.schema = some (.mapping members) →
      ((∃ declaration, type.toRecordType.declared = .ok declaration) ↔
        ∀ member ∈ members,
          (∃ name, member.1.HasText name) ∧ ∃ option, member.2.HasOption option) ∧
      (∀ declaration, type.toRecordType.declared = .ok declaration →
        ∃ entries, List.Forall₂ Yaml.Declares members entries ∧
          declaration.names.Nodup ∧ declaration.names = (entries.map Prod.fst).eraseDups ∧
          ∀ name, declaration.get? name =
            ((entries.filter fun entry => entry.1 = name).getLast?).map Prod.snd) ∧
      ∀ fault, type.toRecordType.declared = .error fault ↔
        ∃ cause, FirstBad Yaml.Declares Yaml.Misdeclares members cause ∧
          .declaration type.name cause = fault := by
  unfold FileRecordType.toRecordType
  refine ⟨?_, ?_, ?_⟩
  · rintro (absent | null)
    · rw [absent]
      rfl
    · rw [null]
      rfl
  · intro tree given notNull notMapping
    rw [given]
    cases tree with
    | null => exact (notNull rfl).elim
    | mapping members => exact (notMapping rfl).elim
    | _ => rfl
  · intro members given
    have answers := (Yaml.answers_declaration members).mapError (Fault.declaration type.name)
    rw [given]
    refine ⟨?_, ?_, answers.error_iff⟩
    · rw [answers.exists_ok_iff, exists_comm]
      simp only [exists_and_left, exists_eq', and_true, exists_forall₂_iff]
      exact forall₂_congr fun member _ => Yaml.exists_declares_iff
    · intro declaration accepted
      obtain ⟨entries, each, rfl⟩ := (answers.ok_iff declaration).mp accepted
      exact ⟨entries, each, (Declaration.ofList entries).nodup, Declaration.names_ofList entries,
        fun name => Declaration.get?_ofList name entries⟩

/-- A file among whose keys one text stands as a number and as a string. -/
def numberedType : FileRecordType where
  name := "article"
  primaryKey := "id"
  softDelete := false
  deletedAt := "deleted_at"
  instants := []
  schema := some (.mapping [(.number (.integer 1), .string "int32"),
    (.string "title", .sequence [.string "string", .mapping [(.bool true, .sequence [])]]),
    (.string "1", .bool false)])
  source := none

/-- A file with a key inside an option that has no text, and then with a key that is null. -/
def namelessType : FileRecordType :=
  { numberedType with
    schema := some (.mapping [(.string "id", .string "int32"),
      (.string "title", .sequence [.string "string", .mapping [(.sequence [], .null)]]),
      (.null, .string "string")]) }

/-- A number and a string with one text declare one field with the later option, and a list as a key
within an option is reported before the key that is null. -/
theorem declared_by_grammar_numbered :
    (∃ declaration, numberedType.toRecordType.declared = .ok declaration ∧
      declaration.names = ["1", "title"] ∧ declaration.get? "1" = some (.flag false)) ∧
    namelessType.toRecordType.declared =
      .error (.declaration "article" (.unsupportedOption "title" (.key .list))) := by
  constructor
  · obtain ⟨-, -, mapping⟩ := declared_by_grammar numberedType
    obtain ⟨accepts, contents, -⟩ := mapping _ rfl
    have title : (Yaml.sequence [.string "string", .mapping [(.bool true, .sequence [])]]).HasOption
        (.list [.positional (.text "string"), .keyed "true" (.list [])]) :=
      .sequence (.cons (.positional (.text (.string "string")))
        (.cons (.mapping (.cons (.keyed .true (.sequence .nil)) .nil)) .nil))
    have each : List.Forall₂ Yaml.Declares
        [(.number (.integer 1), .string "int32"),
          (.string "title", .sequence [.string "string", .mapping [(.bool true, .sequence [])]]),
          (.string "1", .bool false)]
        [("1", .tokens "int32"),
          ("title", .list [.positional (.text "string"), .keyed "true" (.list [])]),
          ("1", .flag false)] :=
      .cons ⟨.scalar (.number (.integer 1)), .tokens (.string "int32")⟩
        (.cons ⟨.scalar (.string "title"), title⟩
          (.cons ⟨.scalar (.string "1"), .bool false⟩ .nil))
    obtain ⟨declaration, accepted⟩ := accepts.mpr fun member listed =>
      Yaml.exists_declares_iff.mp (exists_forall₂_iff.mp ⟨_, each⟩ member listed)
    obtain ⟨entries, read, -, names, options⟩ := contents declaration accepted
    have same := Yaml.declares_unique read each
    subst same
    exact ⟨declaration, accepted, names, options "1"⟩
  · obtain ⟨-, -, mapping⟩ := declared_by_grammar namelessType
    obtain ⟨-, -, refused⟩ := mapping _ rfl
    have nameless : ∀ name, ¬(Yaml.sequence []).HasText name := nofun
    have title : (Yaml.sequence [.string "string", .mapping [(.sequence [], .null)]]).LacksOption
        (.key .list) :=
      .sequence (.later (.positional (.text (.string "string"))) (.here (.mapping (.here
        (.key .null nameless)))))
    have first : Yaml.Declares (.string "id", .string "int32") ("id", .tokens "int32") :=
      ⟨.scalar (.string "id"), .tokens (.string "int32")⟩
    have second := Yaml.Misdeclares.option (.scalar (.string "title")) title
    exact (refused _).mpr ⟨_, .later first (.here second), rfl⟩

end SearchCollection
