import Mathlib.Data.List.Induction
import Mathlib.Data.List.Nodup
import SearchCollection.DeclarationFile.Folder
import SearchCollection.Proofs.Entries

/-! # Declarations that override others

Record types of files are added one after the other, the later ones over the earlier
ones of their names (`DeclarationFolder.addTypes`), so that the last one of a name is
known by it (`get?_addTypes_eq_some_iff`). A record type that another one of its name
follows is overridden by the next such one (`Overrides`). The log is told of each
record type that is overridden, once, in the order of those that override them
(`ListsOverrides`, `exists_listsOverrides`).
-/

namespace SearchCollection

/-- The last item that passes stands before none that does. -/
theorem getLast?_filter_eq_some_iff {α : Type} {passes : α → Bool} {items : List α} {item : α} :
    (items.filter passes).getLast? = some item ↔
      passes item = true ∧ ∃ before after, items = before ++ item :: after ∧
        ∀ other ∈ after, passes other = false := by
  rw [← List.head?_reverse, ← List.filter_reverse, List.head?_filter,
    List.find?_eq_some_iff_append]
  refine and_congr_right fun _ => ?_
  constructor
  · rintro ⟨after, before, split, others⟩
    refine ⟨before.reverse, after.reverse, ?_, fun other member => ?_⟩
    · rw [← List.reverse_reverse items, split]
      simp
    · simpa using others other (List.mem_reverse.mp member)
  · rintro ⟨before, after, rfl, others⟩
    refine ⟨after.reverse, before.reverse, by simp, fun other member => ?_⟩
    simpa using others other (List.mem_reverse.mp member)

namespace DeclarationFolder

/-- The record types added to those before, one after the other. -/
def addTypes (types : FileRecordTypes) : List FileRecordType → Logged FileRecordTypes
  | [] => ⟨types, []⟩
  | type :: rest =>
      let added := addType types type
      let later := addTypes added.answer rest
      ⟨later.answer, added.events ++ later.events⟩

theorem addTypes_append (types : FileRecordTypes) (first second : List FileRecordType) :
    addTypes types (first ++ second) =
      ⟨(addTypes (addTypes types first).answer second).answer,
        (addTypes types first).events ++
          (addTypes (addTypes types first).answer second).events⟩ := by
  induction first generalizing types with
  | nil => rfl
  | cons type rest ih => rw [List.cons_append, addTypes, ih, addTypes, List.append_assoc]

/-- The last record type is added to what the ones before it make. -/
theorem addTypes_append_singleton (types : List FileRecordType) (type : FileRecordType) :
    addTypes [] (types ++ [type]) =
      ⟨(addType (addTypes [] types).answer type).answer,
        (addTypes [] types).events ++ (addType (addTypes [] types).answer type).events⟩ := by
  rw [addTypes_append, addTypes, addTypes, List.append_nil]

/-- What is known after all is what was put in order under the names. -/
theorem answer_addTypes (types : List FileRecordType) :
    (addTypes [] types).answer = Entries.ofList (types.map fun type => (type.name, type)) := by
  induction types using List.reverseRecOn with
  | nil => rfl
  | append_singleton types type ih =>
      rw [addTypes_append_singleton, addType, ih, List.map_append, List.map_singleton,
        Entries.ofList_append_singleton]

variable {types : List FileRecordType} {type : FileRecordType} {name : String}

/-- The names kept are those of the record types added. -/
theorem mem_keys_addTypes :
    name ∈ (addTypes [] types).answer.map Prod.fst ↔ ∃ type ∈ types, type.name = name := by
  rw [answer_addTypes, Entries.mem_keys_ofList, List.map_map]
  exact List.mem_map

/-- Nothing is kept under a name exactly when no record type added has it. -/
theorem get?_addTypes_eq_none_iff :
    Entries.get? name (addTypes [] types).answer = none ↔ ∀ type ∈ types, type.name ≠ name := by
  rw [← Option.not_isSome_iff_eq_none, Entries.isSome_get?_iff, mem_keys_addTypes]
  simp

/-- Under a name the last record type of the name is known. -/
theorem get?_addTypes_eq_some_iff :
    Entries.get? name (addTypes [] types).answer = some type ↔
      type.name = name ∧ ∃ before after, types = before ++ type :: after ∧
        ∀ other ∈ after, other.name ≠ name := by
  rw [answer_addTypes, Entries.get?_ofList, List.filter_map, List.getLast?_map, Option.map_map,
    show Prod.snd ∘ (fun type : FileRecordType => (type.name, type)) = id from rfl,
    Option.map_id, id, getLast?_filter_eq_some_iff]
  simp only [Function.comp_apply, decide_eq_true_eq, decide_eq_false_iff_not]

end DeclarationFolder

variable {types : List FileRecordType} {type other : FileRecordType}

/-- The second record type is the next one of the first one's name. -/
def Overrides (types : List FileRecordType) (type other : FileRecordType) : Prop :=
  other.name = type.name ∧ ∃ before between after,
    types = before ++ type :: (between ++ other :: after) ∧
      ∀ another ∈ between, another.name ≠ type.name

/-- Another record type of its name follows. -/
def IsOverridden (types : List FileRecordType) (type : FileRecordType) : Prop :=
  ∃ before after, types = before ++ type :: after ∧ ∃ other ∈ after, other.name = type.name

/-- What the log is told of a record type that is overridden. -/
def FileRecordType.overriddenEvent (type : FileRecordType) : Event :=
  .declarationReplaced type.name type.source

/-- A record type overrides another whatever follows. -/
theorem Overrides.append (overrides : Overrides types type other) (last : FileRecordType) :
    Overrides (types ++ [last]) type other := by
  obtain ⟨same, before, between, after, rfl, apart⟩ := overrides
  exact ⟨same, before, between, after ++ [last], by simp, apart⟩

/-- A record type more overrides those before it of its own name, and no others. -/
theorem isOverridden_append_singleton {last : FileRecordType} :
    IsOverridden (types ++ [last]) type ↔
      IsOverridden types type ∨ type ∈ types ∧ last.name = type.name := by
  constructor
  · rintro ⟨before, after, split, other, member, same⟩
    rcases List.eq_nil_or_concat after with rfl | ⟨rest, final, rfl⟩
    · cases member
    · rw [List.concat_eq_append] at split member
      rw [← List.cons_append, ← List.append_assoc] at split
      obtain ⟨rfl, ends⟩ := List.append_inj' split rfl
      obtain rfl : last = final := List.head_eq_of_cons_eq ends
      rcases List.mem_append.mp member with earlier | final
      · exact .inl ⟨before, rest, rfl, other, earlier, same⟩
      · rw [List.mem_singleton.mp final] at same
        exact .inr ⟨by simp, same⟩
  · rintro (⟨before, after, rfl, other, member, same⟩ | ⟨member, same⟩)
    · refine ⟨before, after ++ [last], by simp, other, List.mem_append_left _ member, same⟩
    · obtain ⟨before, after, rfl⟩ := List.append_of_mem member
      exact ⟨before, after ++ [last], by simp, last, by simp, same⟩

variable {before after : List FileRecordType}

/-- The last record type of a name is not overridden where no record type stands twice. -/
theorem not_isOverridden_of_forall_ne (nodup : (before ++ type :: after).Nodup)
    (others : ∀ other ∈ after, other.name ≠ type.name) :
    ¬IsOverridden (before ++ type :: after) type := by
  rintro ⟨front, back, split, other, member, same⟩
  obtain ⟨-, distinct, apart⟩ := List.nodup_append.mp nodup
  have absentBefore : type ∉ before := fun here => apart type here type List.mem_cons_self rfl
  have absentAfter : type ∉ after := (List.nodup_cons.mp distinct).1
  obtain ⟨-, -, rfl⟩ := (List.append_cons_inj_of_notMem absentBefore absentAfter).mp split
  exact others other member same

/-- Each record type of a name but the last one is overridden. -/
theorem eq_or_isOverridden (others : ∀ other ∈ after, other.name ≠ type.name)
    (member : other ∈ before ++ type :: after) (same : other.name = type.name) :
    other = type ∨ IsOverridden (before ++ type :: after) other := by
  rcases List.mem_append.mp member with earlier | here
  · obtain ⟨front, back, rfl⟩ := List.append_of_mem earlier
    exact .inr ⟨front, back ++ type :: after, by simp, type, by simp, same.symm⟩
  · rcases List.mem_cons.mp here with rfl | later
    · exact .inl rfl
    · exact (others other later same).elim

/-- The record types that are overridden, each once and beside the one that overrides it, in the
order of those that override them. -/
structure ListsOverrides (types : List FileRecordType)
    (overrides : List (FileRecordType × FileRecordType)) : Prop where
  each : ∀ pair ∈ overrides, Overrides types pair.1 pair.2
  inOrder : (overrides.map Prod.snd).Sublist types
  once : (overrides.map Prod.fst).Nodup
  all : ∀ type, type ∈ overrides.map Prod.fst ↔ IsOverridden types type

namespace ListsOverrides

variable {overrides : List (FileRecordType × FileRecordType)} {last : FileRecordType}

theorem nil : ListsOverrides [] [] where
  each _ member := (List.not_mem_nil member).elim
  inOrder := .slnil
  once := List.nodup_nil
  all type := by simp [IsOverridden]

/-- A record type of a new name overrides none. -/
theorem append_of_forall_ne (lists : ListsOverrides types overrides)
    (new : ∀ type ∈ types, type.name ≠ last.name) :
    ListsOverrides (types ++ [last]) overrides where
  each pair member := (lists.each pair member).append last
  inOrder := lists.inOrder.trans (List.sublist_append_left types [last])
  once := lists.once
  all type := by
    rw [lists.all, isOverridden_append_singleton, or_iff_left]
    rintro ⟨member, same⟩
    exact new type member same.symm

/-- A record type of a name that is there already overrides the last one of it. -/
theorem append_of_name_eq (lists : ListsOverrides (before ++ type :: after) overrides)
    (nodup : (before ++ type :: after).Nodup) (others : ∀ other ∈ after, other.name ≠ type.name)
    (same : last.name = type.name) :
    ListsOverrides (before ++ type :: after ++ [last]) (overrides ++ [(type, last)]) where
  each := by
    rw [List.forall_mem_append]
    refine ⟨fun pair member => (lists.each pair member).append last, fun pair member => ?_⟩
    rw [List.mem_singleton.mp member]
    exact ⟨same, before, after, [], by simp, others⟩
  inOrder := by
    rw [List.map_append]
    exact lists.inOrder.append (.refl _)
  once := by
    have final := not_isOverridden_of_forall_ne nodup others
    rw [List.map_append, List.map_singleton, ← List.concat_eq_append, List.nodup_concat]
    exact ⟨fun member => final ((lists.all type).mp member), lists.once⟩
  all other := by
    rw [List.map_append, List.mem_append, lists.all, isOverridden_append_singleton]
    constructor
    · rintro (already | member)
      · exact .inl already
      · rw [List.mem_singleton.mp member]
        exact .inr ⟨by simp, same⟩
    · rintro (already | ⟨member, alike⟩)
      · exact .inl already
      · rcases eq_or_isOverridden others member (alike.symm.trans same) with rfl | already
        · exact .inr (List.mem_singleton_self _)
        · exact .inl already

end ListsOverrides

/-- The log is told of each record type that is overridden, once, when another one takes its
place. -/
theorem exists_listsOverrides (nodup : types.Nodup) :
    ∃ overrides, ListsOverrides types overrides ∧
      (DeclarationFolder.addTypes [] types).events =
        overrides.map fun pair => pair.1.overriddenEvent := by
  induction types using List.reverseRecOn with
  | nil => exact ⟨[], .nil, rfl⟩
  | append_singleton types last ih =>
      have distinct : types.Nodup := (List.nodup_append.mp nodup).1
      obtain ⟨overrides, lists, told⟩ := ih distinct
      rw [DeclarationFolder.addTypes_append_singleton, DeclarationFolder.addType, told]
      cases found : Entries.get? last.name (DeclarationFolder.addTypes [] types).answer with
      | none =>
          have new := DeclarationFolder.get?_addTypes_eq_none_iff.mp found
          exact ⟨overrides, lists.append_of_forall_ne new, List.append_nil _⟩
      | some earlier =>
          obtain ⟨named, before, after, rfl, others⟩ :=
            DeclarationFolder.get?_addTypes_eq_some_iff.mp found
          rw [← named] at others
          refine ⟨overrides ++ [(earlier, last)], ?_, ?_⟩
          · exact lists.append_of_name_eq distinct others named.symm
          · rw [List.map_append]
            rfl

end SearchCollection
