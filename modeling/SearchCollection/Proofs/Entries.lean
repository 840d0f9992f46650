import Mathlib.Data.List.Forall2
import Mathlib.Data.List.Induction
import SearchCollection.Keyed

/-! # Reading entries that were put in order

Entries put in order one after the other have the keys of the list they came from
(`Entries.mem_keys_ofList`), each once and in ascending order, and under each key
the last value of the list (`Entries.get?_ofList`). Entries in order are the same
where the same is found under every key (`Entries.eq_of_get?_eq`), and putting them
in order again changes nothing (`Entries.ofList_of_ordered`).
-/

namespace SearchCollection

/-- Where each value is found under the name that it was put under, and under that name only, the
last of several values put under one name is found. -/
theorem find?_foldl {α σ : Type} {put : σ → String × α → σ} {find? : String → σ → Option α}
    (found : ∀ state entry name, find? name (put state entry) =
      if name = entry.1 then some entry.2 else find? name state)
    (start : σ) (entries : List (String × α)) (name : String) :
    find? name (entries.foldl put start) =
      (((entries.filter fun entry => entry.1 = name).getLast?).map Prod.snd).or
        (find? name start) := by
  induction entries using List.reverseRecOn with
  | nil => rfl
  | append_singleton entries entry ih =>
      rw [List.foldl_append, List.foldl_cons, List.foldl_nil, found, ih, List.filter_append,
        List.getLast?_append]
      by_cases same : entry.1 = name
      · rw [if_pos same.symm, List.filter_cons_of_pos (by simpa using same)]
        rfl
      · rw [if_neg fun equal => same equal.symm, List.filter_cons_of_neg (by simpa using same)]
        rfl

namespace Entries

variable {α β : Type} {key : String} {value : α} {entries : Entries α}

theorem ofList_append_singleton (entries : List (String × α)) (entry : String × α) :
    ofList (entries ++ [entry]) = insert entry.1 entry.2 (ofList entries) := by
  rw [ofList, List.foldl_append]
  rfl

/-- Entries that are inserted one after the other are in order. -/
theorem ordered_ofList (entries : List (String × α)) : Ordered (ofList entries) := by
  induction entries using List.reverseRecOn with
  | nil => exact List.Pairwise.nil
  | append_singleton entries entry ih =>
      rw [ofList_append_singleton]
      exact ordered_insert entry.1 entry.2 ih

/-- The keys of a list are those inserted. -/
theorem mem_keys_ofList {key : String} {entries : List (String × α)} :
    key ∈ (ofList entries).map Prod.fst ↔ key ∈ entries.map Prod.fst := by
  induction entries using List.reverseRecOn with
  | nil => rfl
  | append_singleton entries entry ih =>
      rw [ofList_append_singleton, mem_keys_insert, ih, List.map_append, List.mem_append, or_comm]
      simp only [List.map_cons, List.map_nil, List.mem_singleton]

/-- Of several values under one key the last remains. -/
theorem get?_ofList (key : String) (entries : List (String × α)) :
    get? key (ofList entries) =
      ((entries.filter fun entry => entry.1 = key).getLast?).map Prod.snd :=
  (find?_foldl (fun sofar entry name => get?_insert entry.1 name entry.2 sofar) [] entries
    key).trans Option.or_none

/-- A later entry of the same key is found before an earlier one. -/
theorem get?_ofList_cons (key : String) (entry : String × α) (rest : List (String × α)) :
    get? key (ofList (entry :: rest)) =
      (get? key (ofList rest)).or (if entry.1 = key then some entry.2 else none) := by
  rw [get?_ofList, get?_ofList]
  by_cases same : entry.1 = key
  · rw [if_pos same, List.filter_cons_of_pos (by simpa using same), List.getLast?_cons]
    cases (rest.filter fun entry => entry.1 = key).getLast? <;> rfl
  · rw [if_neg same, List.filter_cons_of_neg (by simpa using same), Option.or_none]

theorem isSome_get?_iff {key : String} {entries : Entries α} :
    (get? key entries).isSome ↔ key ∈ entries.map Prod.fst := by
  induction entries with
  | nil => simp [get?]
  | cons entry rest ih =>
      rw [get?, List.map_cons, List.mem_cons, ← ih]
      by_cases same : entry.1 = key
      · simp [same]
      · rw [if_neg same, or_iff_right (Ne.symm same)]

/-- Where no key comes twice, each entry is the one that is found under its key. -/
theorem get?_eq_some_iff_of_nodup {entries : List (String × α)}
    (nodup : (entries.map Prod.fst).Nodup) {key : String} {value : α} :
    get? key entries = some value ↔ (key, value) ∈ entries := by
  induction entries with
  | nil => simp [get?]
  | cons entry rest ih =>
      obtain ⟨absent, distinct⟩ := List.nodup_cons.mp nodup
      rw [get?, List.mem_cons]
      by_cases same : entry.1 = key
      · have first : (key, value) ∉ rest := by
          intro later
          exact absent (List.mem_map.mpr ⟨(key, value), later, same.symm⟩)
        rw [if_pos same, or_iff_left first, Option.some.injEq]
        constructor
        · intro equal
          exact Prod.ext same.symm equal.symm
        · intro equal
          exact (congrArg Prod.snd equal).symm
      · rw [if_neg same, ih distinct, or_iff_right]
        intro equal
        exact same (congrArg Prod.fst equal).symm

/-- Ordered entries have different keys. -/
theorem nodup_keys_of_ordered {entries : Entries α} (ordered : Ordered entries) :
    (entries.map Prod.fst).Nodup := by
  refine (List.pairwise_map.mpr ordered).imp ?_
  rintro first second below rfl
  exact String.lt_irrefl _ below

/-- Of entries in order each is the one that is found under its key. -/
theorem get?_eq_some_iff {entries : Entries α} (ordered : Ordered entries) {key : String}
    {value : α} : get? key entries = some value ↔ (key, value) ∈ entries :=
  get?_eq_some_iff_of_nodup (nodup_keys_of_ordered ordered)

theorem nodup_of_ordered {entries : Entries α} (ordered : Ordered entries) : entries.Nodup :=
  List.Pairwise.of_map Prod.fst (fun _ _ apart same => apart (congrArg Prod.fst same))
    (nodup_keys_of_ordered ordered)

/-- The same entries are in order in one way only. -/
theorem eq_of_perm {first second : Entries α} (orderedFirst : Ordered first)
    (orderedSecond : Ordered second) (perm : first.Perm second) : first = second := by
  refine perm.eq_of_pairwise ?_ orderedFirst orderedSecond
  intro before after _ _ below above
  exact (String.lt_irrefl _ (String.lt_trans below above)).elim

/-- Entries in order are told apart by what is found under their keys. -/
theorem eq_of_get?_eq {first second : Entries α} (orderedFirst : Ordered first)
    (orderedSecond : Ordered second) (same : ∀ key, get? key first = get? key second) :
    first = second := by
  have members (entry : String × α) : entry ∈ first ↔ entry ∈ second := by
    rw [← get?_eq_some_iff orderedFirst, ← get?_eq_some_iff orderedSecond, same]
  apply eq_of_perm orderedFirst orderedSecond
  exact (List.perm_ext_iff_of_nodup (nodup_of_ordered orderedFirst)
    (nodup_of_ordered orderedSecond)).mpr members

/-- An entry under a new key is put between those that are there. -/
theorem exists_insert_eq (absent : key ∉ entries.map Prod.fst) (value : α) :
    ∃ before after, entries = before ++ after ∧
      insert key value entries = before ++ (key, value) :: after := by
  induction entries with
  | nil => exact ⟨[], [], rfl, rfl⟩
  | cons entry rest ih =>
      rw [List.map_cons, List.mem_cons, not_or] at absent
      obtain ⟨different, later⟩ := absent
      rw [insert]
      by_cases below : key < entry.1
      · rw [if_pos below]
        exact ⟨[], entry :: rest, rfl, rfl⟩
      · obtain ⟨before, after, split, inserted⟩ := ih later
        rw [if_neg below, if_neg different, inserted, split]
        exact ⟨entry :: before, after, rfl, rfl⟩

/-- An entry with a greater key than all others is put behind them. -/
theorem insert_of_forall_lt (below : ∀ entry ∈ entries, entry.1 < key) :
    insert key value entries = entries ++ [(key, value)] := by
  induction entries with
  | nil => rfl
  | cons entry rest ih =>
      obtain ⟨head, tail⟩ := List.forall_mem_cons.mp below
      have notLess : ¬key < entry.1 := String.lt_asymm head
      have different : key ≠ entry.1 := fun same => String.lt_irrefl key (by rwa [same] at head ⊢)
      rw [insert, if_neg notLess, if_neg different, ih tail, List.cons_append]

/-- Entries in order stay as they are. -/
theorem ofList_of_ordered (ordered : Ordered entries) : ofList entries = entries := by
  induction entries using List.reverseRecOn with
  | nil => rfl
  | append_singleton before entry ih =>
      obtain ⟨orderedBefore, -, below⟩ := List.pairwise_append.mp ordered
      rw [ofList_append_singleton, ih orderedBefore, insert_of_forall_lt]
      exact fun other member => below other member entry List.mem_cons_self

/-- Where no key comes twice, putting entries in order loses none. -/
theorem perm_ofList {entries : List (String × α)} (nodup : (entries.map Prod.fst).Nodup) :
    (ofList entries).Perm entries := by
  induction entries using List.reverseRecOn with
  | nil => exact .refl _
  | append_singleton before entry ih =>
      rw [List.map_append, List.map_singleton, List.nodup_append] at nodup
      obtain ⟨distinct, -, apart⟩ := nodup
      have absent : entry.1 ∉ (ofList before).map Prod.fst := by
        rw [mem_keys_ofList]
        intro member
        exact apart entry.1 member entry.1 (List.mem_singleton_self _) rfl
      obtain ⟨front, back, split, inserted⟩ := exists_insert_eq absent entry.2
      rw [ofList_append_singleton, inserted]
      have taken : (front ++ entry :: back).Perm (entry :: ofList before) :=
        split ▸ List.perm_middle
      have kept : (entry :: ofList before).Perm (entry :: before) := (ih distinct).cons entry
      exact (taken.trans kept).trans (List.perm_append_singleton entry before).symm

/-- Where no key comes twice, putting entries in order changes nothing of what is found. -/
theorem get?_ofList_of_nodup {entries : List (String × α)} (nodup : (entries.map Prod.fst).Nodup)
    (key : String) : get? key (ofList entries) = get? key entries := by
  ext value
  rw [get?_eq_some_iff (ordered_ofList entries), get?_eq_some_iff_of_nodup nodup,
    (perm_ofList nodup).mem_iff]

/-- Where no key comes twice, the order in which entries were given says nothing. -/
theorem ofList_eq_of_perm {first second : List (String × α)} (perm : first.Perm second)
    (nodup : (first.map Prod.fst).Nodup) : ofList first = ofList second := by
  have nodupSecond : (second.map Prod.fst).Nodup := (perm.map Prod.fst).nodup_iff.mp nodup
  apply eq_of_perm (ordered_ofList first) (ordered_ofList second)
  exact (perm_ofList nodup).trans (perm.trans (perm_ofList nodupSecond).symm)

theorem ordered_iff : Ordered entries ↔ (entries.map Prod.fst).Pairwise (· < ·) :=
  List.pairwise_map.symm

section Made

variable {ε : Type} {make : String × α → Except ε β} {others : Entries β}

/-- Entries made one by one keep their keys. -/
theorem keys_of_forall₂ (each : List.Forall₂ (fun entry other => other.1 = entry.1 ∧
    make entry = .ok other.2) entries others) :
    others.map Prod.fst = entries.map Prod.fst := by
  induction each with
  | nil => rfl
  | cons head _ ih => rw [List.map_cons, List.map_cons, head.1, ih]

/-- Entries that are made one by one under the same keys are found under the same keys. -/
theorem get?_of_forall₂ (each : List.Forall₂ (fun entry other => other.1 = entry.1 ∧
    make entry = .ok other.2) entries others) (key : String) :
    get? key others = (get? key entries).bind fun value => (make (key, value)).toOption := by
  induction each with
  | nil => rfl
  | @cons entry other _ _ head _ ih =>
      obtain ⟨name, value⟩ := entry
      obtain ⟨same, made⟩ := head
      rw [get?, get?, same, ih]
      by_cases first : name = key
      · subst first
        rw [if_pos rfl, if_pos rfl, Option.bind_some, made]
        rfl
      · rw [if_neg first, if_neg first]

end Made

end Entries

end SearchCollection
