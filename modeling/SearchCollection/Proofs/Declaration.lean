import SearchCollection.Declaration
import SearchCollection.Proofs.Entries

/-! # What a declaration holds

A declaration that was made of a list of entries has their names in the order in which they first
came, each once (`Declaration.names_ofList`), and under each name the option that came last
(`Declaration.get?_ofList`). An option under a new name goes behind the others
(`putOption_of_not_mem`), and one under a name that has an option already takes the place of that
option (`putOption_of_mem`).
-/

namespace SearchCollection

/-- An option under a name that has none yet goes behind the others. -/
theorem putOption_of_not_mem {name : String} (option : FieldOption)
    {entries : List (String × FieldOption)} (absent : name ∉ entries.map Prod.fst) :
    putOption name option entries = entries ++ [(name, option)] := by
  induction entries with
  | nil => rfl
  | cons entry rest ih =>
      simp only [List.map_cons, List.mem_cons, not_or] at absent
      rw [putOption, if_neg fun same => absent.1 same.symm, ih absent.2, List.cons_append]

/-- An option under a name that has one already takes its place, and no other entry changes. -/
theorem putOption_of_mem {name : String} (option : FieldOption)
    {entries : List (String × FieldOption)} (nodup : (entries.map Prod.fst).Nodup)
    (present : name ∈ entries.map Prod.fst) :
    putOption name option entries =
      entries.map fun entry => if entry.1 = name then (name, option) else entry := by
  induction entries with
  | nil => exact (List.not_mem_nil present).elim
  | cons entry rest ih =>
      rw [List.map_cons, List.nodup_cons] at nodup
      rw [putOption, List.map_cons]
      by_cases same : entry.1 = name
      · have others : ∀ other ∈ rest,
            (if other.1 = name then (name, option) else other) = other := by
          intro other member
          refine if_neg fun equal => nodup.1 ?_
          exact (equal.trans same.symm) ▸ List.mem_map_of_mem member
        rw [if_pos same, if_pos same, List.map_congr_left others, List.map_id']
      · have later : name ∈ rest.map Prod.fst :=
          (List.mem_cons.mp present).resolve_left fun equal => same equal.symm
        rw [if_neg same, if_neg same, ih nodup.2 later]

namespace Declaration

/-- A declaration contains a name exactly when it lists it. -/
theorem contains_eq_true_iff {declaration : Declaration} {name : String} :
    declaration.contains name = true ↔ name ∈ declaration.names :=
  List.contains_iff_mem

/-- The entry of a name is the one just put under it, or else the one that was there. -/
theorem find?_putOption (name other : String) (option : FieldOption)
    (entries : List (String × FieldOption)) :
    ((putOption name option entries).find? fun entry => entry.1 = other) =
      if other = name then some (name, option) else entries.find? fun entry => entry.1 = other := by
  induction entries with
  | nil => by_cases same : name = other <;> simp [putOption, same, eq_comm]
  | cons entry rest ih =>
      rw [putOption]
      by_cases replaced : entry.1 = name
      · by_cases same : name = other <;> simp [replaced, same, eq_comm]
      · rw [if_neg replaced]
        by_cases found : entry.1 = other
        · have apart : other ≠ name := found ▸ replaced
          simp [found, apart]
        · simp [found, ih]

/-- The option just given to a name is found under it, and every other name keeps its own. -/
theorem get?_insert (declaration : Declaration) (name other : String) (option : FieldOption) :
    (declaration.insert name option).get? other =
      if other = name then some option else declaration.get? other := by
  rw [get?, insert, find?_putOption, get?]
  split <;> rfl

/-- The last entry of a list is inserted last. -/
theorem ofList_append_singleton (entries : List (String × FieldOption))
    (entry : String × FieldOption) :
    ofList (entries ++ [entry]) = (ofList entries).insert entry.1 entry.2 := by
  rw [ofList, List.foldl_append]
  rfl

/-- Each name has the place where it first came. -/
theorem names_ofList (entries : List (String × FieldOption)) :
    (ofList entries).names = (entries.map Prod.fst).eraseDups := by
  induction entries using List.reverseRecOn with
  | nil => rfl
  | append_singleton entries entry ih =>
      rw [ofList_append_singleton, names_insert, ih, List.map_append, List.eraseDups_append,
        List.map_singleton]
      by_cases given : entry.1 ∈ entries.map Prod.fst
      · rw [if_pos (List.mem_eraseDups.mpr given)]
        simp [List.removeAll, given]
      · rw [if_neg (mt List.mem_eraseDups.mp given)]
        simp [List.removeAll, given, List.eraseDups_cons]

/-- Of several options for one name the last remains. -/
theorem get?_ofList (name : String) (entries : List (String × FieldOption)) :
    (ofList entries).get? name =
      ((entries.filter fun entry => entry.1 = name).getLast?).map Prod.snd := by
  have last := @find?_foldl _ _ (fun sofar entry => sofar.insert entry.1 entry.2)
    (fun name sofar => sofar.get? name)
    (fun sofar entry name => get?_insert sofar entry.1 name entry.2) empty entries name
  exact last.trans Option.or_none

end Declaration

end SearchCollection
