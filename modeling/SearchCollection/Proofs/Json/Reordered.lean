import Mathlib.Data.List.Nodup
import SearchCollection.Json.Basic
import SearchCollection.Proofs.Entries

/-! # Trees with their members in another order

Putting the members of objects in key order keeps the last of those with one key, so it can lose
some. It loses none where no object has a key twice (`Json.KeysOnce`): then the members correspond
one to one to those before, under the same keys and with values of which the same holds
(`Json.reordered_sorted`). A tree that is built anew, with the last of equal keys in each object,
is the one in key order (`Json.Builds.eq_sorted`).
-/

namespace SearchCollection

/-- The entries correspond one to one, under the same keys and in any order. -/
inductive Rearranged {α β : Type} (related : α → β → Prop) :
    List (String × α) → List (String × β) → Prop where
  | nil : Rearranged related [] []
  | cons {key : String} {value : α} {other : β} {rest : List (String × α)}
      {before after : List (String × β)} (head : related value other)
      (tail : Rearranged related rest (before ++ after)) :
      Rearranged related ((key, value) :: rest) (before ++ (key, other) :: after)

namespace Json

/-- No object in the tree has a key twice. -/
inductive KeysOnce : Json → Prop where
  | null : KeysOnce .null
  | bool (value : Bool) : KeysOnce (.bool value)
  | number (value : JsonNumber) : KeysOnce (.number value)
  | string (value : String) : KeysOnce (.string value)
  | array {items : List Json} (each : ∀ item ∈ items, KeysOnce item) : KeysOnce (.array items)
  | object {members : List (String × Json)} (nodup : (members.map Prod.fst).Nodup)
      (each : ∀ member ∈ members, KeysOnce member.2) : KeysOnce (.object members)

/-- The tree is made of texts, Booleans, lists and objects. -/
inductive Plain : Json → Prop where
  | bool (value : Bool) : Plain (.bool value)
  | string (value : String) : Plain (.string value)
  | array {items : List Json} (each : ∀ item ∈ items, Plain item) : Plain (.array items)
  | object {members : List (String × Json)} (each : ∀ member ∈ members, Plain member.2) :
      Plain (.object members)

/-- The same tree, but for the order of the members of objects. -/
inductive Reordered : Json → Json → Prop where
  | null : Reordered .null .null
  | bool (value : Bool) : Reordered (.bool value) (.bool value)
  | number (value : JsonNumber) : Reordered (.number value) (.number value)
  | string (value : String) : Reordered (.string value) (.string value)
  | array {items others : List Json} (each : List.Forall₂ Reordered items others) :
      Reordered (.array items) (.array others)
  | object {members others : List (String × Json)} (each : Rearranged Reordered members others) :
      Reordered (.object members) (.object others)

variable {members : List (String × Json)}

theorem mem_keys_sortedMembers {key : String} :
    key ∈ (sortedMembers members).map Prod.fst ↔ key ∈ members.map Prod.fst := by
  induction members with
  | nil => rfl
  | cons member rest ih =>
      rw [sortedMembers, List.map_cons, List.mem_cons, ← ih]
      split
      · next present =>
          rw [Entries.isSome_get?_iff] at present
          exact (or_iff_right_of_imp fun same => same ▸ present).symm
      · exact Entries.mem_keys_insert

/-- A member under a key of its own is put between the others. -/
theorem sortedMembers_cons {key : String} (fresh : key ∉ members.map Prod.fst) (value : Json) :
    sortedMembers ((key, value) :: members) =
      Entries.insert key value.sorted (sortedMembers members) := by
  have absent := mt mem_keys_sortedMembers.mp fresh
  rw [← Entries.isSome_get?_iff] at absent
  rw [sortedMembers]
  exact if_neg absent

theorem sortedItems_eq_map (items : List Json) : sortedItems items = items.map sorted := by
  induction items with
  | nil => rfl
  | cons item rest ih => rw [sortedItems, ih, List.map_cons]

/-- An object with every key once keeps its members when they are sorted. -/
theorem rearranged_sortedMembers (nodup : (members.map Prod.fst).Nodup)
    (each : ∀ member ∈ members, member.2.Reordered member.2.sorted) :
    Rearranged Reordered members (sortedMembers members) := by
  induction members with
  | nil => exact .nil
  | cons member rest ih =>
      obtain ⟨head, tail⟩ := List.forall_mem_cons.mp each
      obtain ⟨fresh, distinct⟩ := List.nodup_cons.mp nodup
      obtain ⟨before, after, split, inserted⟩ :=
        Entries.exists_insert_eq (mt mem_keys_sortedMembers.mp fresh) member.2.sorted
      rw [sortedMembers_cons fresh, inserted]
      exact .cons head (split ▸ ih distinct tail)

/-- **Key order loses nothing.** Where no object has a key twice, putting the members of objects in
key order changes nothing but their order. -/
theorem reordered_sorted {json : Json} (once : json.KeysOnce) : json.Reordered json.sorted := by
  induction once with
  | null => exact .null
  | bool value => exact .bool value
  | number value => exact .number value
  | string value => exact .string value
  | @array items each ih =>
      refine .array ?_
      rw [sortedItems_eq_map, List.forall₂_map_right_iff, List.forall₂_same]
      exact ih
  | object nodup each ih => exact .object (rearranged_sortedMembers nodup ih)

/-! ## Building trees -/

/-- The keys of sorted members ascend. -/
theorem ordered_sortedMembers (members : List (String × Json)) :
    Entries.Ordered (sortedMembers members) := by
  induction members with
  | nil => exact List.Pairwise.nil
  | cons member rest ih =>
      rw [sortedMembers]
      split
      · exact ih
      · exact Entries.ordered_insert member.1 member.2.sorted ih

/-- Of two members with one key, the later one stays. -/
theorem get?_sortedMembers_cons (key : String) (member : String × Json) :
    Entries.get? key (sortedMembers (member :: members)) =
      (Entries.get? key (sortedMembers members)).or
        (if member.1 = key then some member.2.sorted else none) := by
  rw [sortedMembers]
  by_cases same : member.1 = key
  · subst same
    cases found : Entries.get? member.1 (sortedMembers members) <;>
      simp [found, Entries.get?_insert]
  · rw [if_neg same, Option.or_none]
    split
    · rfl
    · rw [Entries.get?_insert, if_neg (Ne.symm same)]

/-- Sorted members are those inserted one after the other, each sorted itself. -/
theorem sortedMembers_eq_ofList (members : List (String × Json)) :
    sortedMembers members =
      Entries.ofList (members.map fun member => (member.1, member.2.sorted)) := by
  refine Entries.eq_of_get?_eq (ordered_sortedMembers members) (Entries.ordered_ofList _)
    fun key => ?_
  induction members with
  | nil => rfl
  | cons member rest ih =>
      rw [get?_sortedMembers_cons, ih, List.map_cons, Entries.get?_ofList_cons]

/-- An object that has no key twice is the same in key order as with its members in any other
order. -/
theorem sorted_object_eq_of_perm {others : List (String × Json)} (perm : members.Perm others)
    (nodup : (members.map Prod.fst).Nodup) :
    (Json.object members).sorted = (Json.object others).sorted := by
  rw [sorted, sorted, sortedMembers_eq_ofList, sortedMembers_eq_ofList, object.injEq]
  apply Entries.ofList_eq_of_perm (perm.map _)
  rwa [List.map_map]

/-- A tree is built from texts, Booleans, lists and objects without fail, an object of its members
in key order, of which the last under each key remains. -/
structure Builds (build : Json → Option Json) : Prop where
  bool : ∀ value, build (.bool value) = some (.bool value)
  string : ∀ text, build (.string text) = some (.string text)
  array : ∀ items others, List.Forall₂ (fun item other => build item = some other) items others →
    build (.array items) = some (.array others)
  object : ∀ members others : List (String × Json),
    List.Forall₂ (fun member other => member.1 = other.1 ∧ build member.2 = some other.2)
      members others →
    build (.object members) = some (.object (Entries.ofList others))

/-- Whatever builds a plain tree makes the sorted one of it. -/
theorem Builds.eq_sorted {build : Json → Option Json} (builds : Builds build) {json : Json}
    (plain : json.Plain) : build json = some json.sorted := by
  induction plain with
  | bool value => exact builds.bool value
  | string text => exact builds.string text
  | @array items each ih =>
      refine builds.array items (sortedItems items) ?_
      rw [sortedItems_eq_map, List.forall₂_map_right_iff, List.forall₂_same]
      exact ih
  | @object members each ih =>
      rw [sorted, sortedMembers_eq_ofList]
      refine builds.object members (members.map fun member => (member.1, member.2.sorted)) ?_
      rw [List.forall₂_map_right_iff, List.forall₂_same]
      exact fun member among => ⟨rfl, ih member among⟩

/-- Putting members in key order is one way to build a tree. -/
theorem builds_sorted : Builds fun json => some json.sorted where
  bool _ := rfl
  string _ := rfl
  array items others built := by
    have same : sortedItems items = others := by
      induction built with
      | nil => rfl
      | cons head _ ih => rw [sortedItems, Option.some.inj head, ih]
    rw [sorted, same]
  object members others built := by
    have same : members.map (fun member => (member.1, member.2.sorted)) = others := by
      induction built with
      | nil => rfl
      | cons head _ ih => rw [List.map_cons, ih, head.1, Option.some.inj head.2]
    rw [sorted, sortedMembers_eq_ofList, same]

end Json

end SearchCollection
