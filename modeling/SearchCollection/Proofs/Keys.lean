import Mathlib.Data.List.Nodup
import Mathlib.Data.List.Perm.Basic

/-! # Items with distinct keys

Where no two items have one key, the item of a key is found wherever it stands
(`find?_key_eq_some_iff`) and is the only one of its key (`filter_key_eq_of_mem`),
and so the order of the items says nothing (`find?_key_eq_of_perm`).
-/

namespace SearchCollection

variable {α κ : Type} [DecidableEq κ] {keyOf : α → κ} {items first second : List α}

/-- Where keys differ, an item is found under a key exactly when it is listed and has it. -/
theorem find?_key_eq_some_iff (nodup : (items.map keyOf).Nodup) {key : κ} {item : α} :
    items.find? (fun other => keyOf other = key) = some item ↔ item ∈ items ∧ keyOf item = key := by
  constructor
  · intro found
    exact ⟨List.mem_of_find?_eq_some found, by simpa using List.find?_some found⟩
  · rintro ⟨member, rfl⟩
    cases found : items.find? fun other => keyOf other = keyOf item with
    | none =>
        have passed := List.find?_eq_none.mp found item member
        exact (passed (decide_eq_true rfl)).elim
    | some other =>
        have otherMember : other ∈ items := List.mem_of_find?_eq_some found
        have same : keyOf other = keyOf item := by simpa using List.find?_some found
        rw [List.inj_on_of_nodup_map nodup otherMember member same]

/-- Where keys differ, an item is the only one of its key. -/
theorem filter_key_eq_of_mem (nodup : (items.map keyOf).Nodup) {item : α} (member : item ∈ items) :
    items.filter (fun other => keyOf other = keyOf item) = [item] := by
  induction items with
  | nil => exact (List.not_mem_nil member).elim
  | cons head rest ih =>
      rw [List.map_cons, List.nodup_cons] at nodup
      rcases List.mem_cons.mp member with rfl | later
      · have others : rest.filter (fun other => keyOf other = keyOf item) = [] := by
          refine List.filter_eq_nil_iff.mpr fun other otherMember same => nodup.1 ?_
          exact of_decide_eq_true same ▸ List.mem_map_of_mem otherMember
        rw [List.filter_cons_of_pos (by simp), others]
      · have differs : keyOf head ≠ keyOf item := fun same =>
          nodup.1 (same ▸ List.mem_map_of_mem later)
        rw [List.filter_cons_of_neg (by simpa using differs), ih nodup.2 later]

/-- Where keys differ, what is found under a key does not depend on the order. -/
theorem find?_key_eq_of_perm (perm : first.Perm second) (nodup : (first.map keyOf).Nodup)
    (key : κ) :
    first.find? (fun item => keyOf item = key) = second.find? fun item => keyOf item = key := by
  have nodupSecond : (second.map keyOf).Nodup := (perm.map keyOf).nodup_iff.mp nodup
  apply Option.ext
  intro item
  rw [find?_key_eq_some_iff nodup, find?_key_eq_some_iff nodupSecond, perm.mem_iff]

end SearchCollection
