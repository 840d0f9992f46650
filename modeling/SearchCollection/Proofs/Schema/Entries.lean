import Mathlib.Data.List.Nodup
import SearchCollection.Proofs.Declaration
import SearchCollection.Schema.Assembly

/-! # The entries of a completed declaration

A record type adds up to two entries behind its declaration: the primary key
(`RecordType.keyEntry`) and the time of deletion (`RecordType.deletionEntry`),
each only under a name that has none yet (`RecordType.entries_complete`). No name
occurs twice, and by their names the entries fall into two parts, those of the
fields and those of the settings (`Schema.map_settingEntries`).
-/

namespace SearchCollection

namespace Setting

/-- The name is the name of a setting. -/
def Named (name : String) : Prop :=
  ∃ setting : Setting, setting.name = name

theorem isSome_ofName?_iff {name : String} : (ofName? name).isSome ↔ Named name := by
  rw [Option.isSome_iff_exists]
  exact exists_congr fun setting => ofName?_eq_some_iff

instance : DecidablePred Named := fun _ => decidable_of_iff _ isSome_ofName?_iff

theorem ofName?_eq_none_iff {name : String} : ofName? name = none ↔ ¬Named name := by
  rw [← isSome_ofName?_iff, Option.not_isSome_iff_eq_none]

end Setting

namespace Declaration

/-- An option is added last, under a name that is not declared yet. -/
theorem entries_addIfAbsent (declaration : Declaration) (name : String) (option : FieldOption) :
    (declaration.addIfAbsent name option).entries =
      declaration.entries ++ if name ∈ declaration.names then [] else [(name, option)] := by
  unfold addIfAbsent
  by_cases present : name ∈ declaration.names
  · rw [if_pos (contains_eq_true_iff.mpr present), if_pos present, List.append_nil]
  · rw [if_neg (mt contains_eq_true_iff.mp present), if_neg present]
    exact putOption_of_not_mem option present

end Declaration

namespace RecordType

/-- The entry of the primary key, where the declaration has none. -/
def keyEntry (type : RecordType) (declaration : Declaration) : List (String × FieldOption) :=
  if type.primaryKey ∈ declaration.names then [] else [(type.primaryKey, primaryKeyOption)]

/-- The entry of the time of deletion, where it is wanted and neither the declaration nor the
entry of the primary key has its name. -/
def deletionEntry (type : RecordType) (declaration : Declaration) : List (String × FieldOption) :=
  if type.softDelete = true ∧ type.deletedAt ∉ declaration.names ∧
      type.deletedAt ∉ (type.keyEntry declaration).map Prod.fst then
    [(type.deletedAt, softDeleteOption)]
  else []

/-- A completed declaration is the declaration with the two added entries behind it. -/
theorem entries_complete (type : RecordType) (declaration : Declaration) :
    (type.complete declaration).entries =
      declaration.entries ++ type.keyEntry declaration ++ type.deletionEntry declaration := by
  have keyed : (declaration.addIfAbsent type.primaryKey primaryKeyOption).entries =
      declaration.entries ++ type.keyEntry declaration :=
    declaration.entries_addIfAbsent type.primaryKey primaryKeyOption
  have names : (declaration.addIfAbsent type.primaryKey primaryKeyOption).names =
      declaration.names ++ (type.keyEntry declaration).map Prod.fst := by
    rw [Declaration.names, keyed, List.map_append, Declaration.names]
  unfold complete deletionEntry
  by_cases wanted : type.softDelete = true
  · rw [if_pos wanted, Declaration.entries_addIfAbsent, keyed, names]
    by_cases present : type.deletedAt ∈
        declaration.names ++ (type.keyEntry declaration).map Prod.fst
    · rw [if_pos present, if_neg]
      rintro ⟨-, undeclared, notKey⟩
      exact (List.mem_append.mp present).elim undeclared notKey
    · rw [if_neg present, if_pos]
      rw [List.mem_append, not_or] at present
      exact ⟨wanted, present⟩
  · rw [if_neg wanted, if_neg fun all => wanted all.1, List.append_nil, keyed]

/-- Entries in normal form have the names of the completed declaration. -/
theorem names_normalized (type : RecordType) (declaration : Declaration) :
    (type.normalized declaration).map Prod.fst = (type.complete declaration).names := by
  rw [normalized, List.map_map]
  rfl

/-- No two entries in normal form have one name. -/
theorem nodup_normalized (type : RecordType) (declaration : Declaration) :
    ((type.normalized declaration).map Prod.fst).Nodup := by
  rw [names_normalized]
  exact (type.complete declaration).nodup

end RecordType

namespace Schema

/-- The entries of fields are those without the name of a setting. -/
theorem mem_fieldEntries {entries : List (String × Normalized)} {entry : String × Normalized} :
    entry ∈ fieldEntries entries ↔ entry ∈ entries ∧ ¬Setting.Named entry.1 := by
  rw [fieldEntries, List.mem_filter, Option.isNone_iff_eq_none, Setting.ofName?_eq_none_iff]

/-- The fields are declared by the entries without the name of a setting. -/
theorem fieldEntries_eq_filter (entries : List (String × Normalized)) :
    fieldEntries entries = entries.filter fun entry => ¬Setting.Named entry.1 := by
  refine List.filter_congr fun entry _ => ?_
  rw [Bool.eq_iff_iff, Option.isNone_iff_eq_none, Setting.ofName?_eq_none_iff, decide_eq_true_iff]

/-- An entry declares the setting that it has the name of. -/
theorem mem_settingEntries {entries : List (String × Normalized)} {setting : Setting}
    {option : Normalized} :
    (setting, option) ∈ settingEntries entries ↔ (setting.name, option) ∈ entries := by
  rw [settingEntries, List.mem_filterMap]
  constructor
  · rintro ⟨entry, member, found⟩
    obtain ⟨named, known, same⟩ := Option.map_eq_some_iff.mp found
    cases same
    rw [Setting.ofName?_eq_some_iff.mp known]
    exact member
  · intro member
    exact ⟨_, member, by rw [Setting.ofName?_name, Option.map_some]⟩

/-- The settings are declared by the entries with their names. -/
theorem map_settingEntries (entries : List (String × Normalized)) :
    (settingEntries entries).map (fun entry => (entry.1.name, entry.2)) =
      entries.filter fun entry => Setting.Named entry.1 := by
  induction entries with
  | nil => rfl
  | cons entry rest ih =>
      rw [settingEntries] at ih ⊢
      cases found : Setting.ofName? entry.1 with
      | none =>
          have unnamed := Setting.ofName?_eq_none_iff.mp found
          rw [List.filterMap_cons, found, Option.map_none, ih,
            List.filter_cons_of_neg (by simpa using unnamed)]
      | some setting =>
          have same := Setting.ofName?_eq_some_iff.mp found
          have named : Setting.Named entry.1 := ⟨setting, same⟩
          rw [List.filterMap_cons, found, Option.map_some, List.map_cons, ih,
            List.filter_cons_of_pos (by simpa using named), same]

theorem nodup_fieldEntries {entries : List (String × Normalized)}
    (nodup : (entries.map Prod.fst).Nodup) : ((fieldEntries entries).map Prod.fst).Nodup :=
  nodup.sublist (List.filter_sublist.map Prod.fst)

theorem nodup_settingEntries {entries : List (String × Normalized)}
    (nodup : (entries.map Prod.fst).Nodup) : ((settingEntries entries).map Prod.fst).Nodup := by
  have names : ((settingEntries entries).map Prod.fst).map Setting.name =
      (entries.filter fun entry => Setting.Named entry.1).map Prod.fst := by
    rw [← map_settingEntries, List.map_map, List.map_map]
    rfl
  refine List.Nodup.of_map Setting.name ?_
  rw [names]
  exact nodup.sublist (List.filter_sublist.map Prod.fst)

end Schema

end SearchCollection
