/-! # Entries in key order

A list of entries whose keys are texts, kept in ascending order of the keys:
`insert` puts an entry at its place and replaces the one that has its key
already. The objects of JSON texts and of record values are such lists, so the
order of their members says nothing but the order of the keys.
-/

namespace SearchCollection

/-- Entries named by texts. -/
abbrev Entries (α : Type u) := List (String × α)

namespace Entries

variable {α : Type u} {β : Type v}

/-- The keys ascend, and so no key occurs twice. -/
def Ordered (entries : Entries α) : Prop :=
  entries.Pairwise fun first second => first.1 < second.1

/-- Puts an entry at its place in key order, over the one with the same key. -/
def insert (key : String) (value : α) : Entries α → Entries α
  | [] => [(key, value)]
  | entry :: rest =>
      if key < entry.1 then (key, value) :: entry :: rest
      else if key = entry.1 then (key, value) :: rest
      else entry :: insert key value rest

/-- The entries in key order; of several with one key the last remains. -/
def ofList (entries : List (String × α)) : Entries α :=
  entries.foldl (fun sofar entry => insert entry.1 entry.2 sofar) []

/-- The value of the first entry with the key. -/
def get? (key : String) : Entries α → Option α
  | [] => none
  | entry :: rest => if entry.1 = key then some entry.2 else get? key rest

/-- The entry just inserted is found, and every other key reads as before. -/
theorem get?_insert (key other : String) (value : α) (entries : Entries α) :
    get? other (insert key value entries) =
      if other = key then some value else get? other entries := by
  induction entries with
  | nil => simp [insert, get?, eq_comm]
  | cons entry rest ih =>
      simp only [insert]
      split
      · simp [get?, eq_comm]
      · split
        · next equal => subst equal; by_cases same : other = entry.1 <;> simp [get?, same, eq_comm]
        · next unequal =>
            simp only [get?, ih]
            by_cases first : entry.1 = other
            · subst first
              simp only [↓reduceIte]
              exact (if_neg fun equal => unequal equal.symm).symm
            · simp [first]

/-- The keys after an insertion are the earlier ones and the new one. -/
theorem mem_keys_insert {key other : String} {value : α} {entries : Entries α} :
    other ∈ (insert key value entries).map Prod.fst ↔
      other = key ∨ other ∈ entries.map Prod.fst := by
  induction entries with
  | nil => simp [insert]
  | cons entry rest ih =>
      simp only [insert]
      split
      · simp
      · split
        · next equal => simp [equal]
        · simp only [List.map_cons, List.mem_cons, ih]
          constructor
          · rintro (first | second | third) <;> simp [*]
          · rintro (first | second | third) <;> simp [*]

/-- Insertion keeps the order of the keys. -/
theorem ordered_insert (key : String) (value : α) {entries : Entries α} (ordered : Ordered entries) :
    Ordered (insert key value entries) := by
  induction entries with
  | nil => simp [insert, Ordered]
  | cons entry rest ih =>
      obtain ⟨headBelow, restOrdered⟩ := List.pairwise_cons.1 ordered
      simp only [insert]
      split
      · next below =>
          refine List.pairwise_cons.2 ⟨fun other member => ?_, ordered⟩
          rcases List.mem_cons.1 member with rfl | later
          · exact below
          · exact String.lt_trans below (headBelow other later)
      · next notBelow =>
          split
          · next equal => exact List.pairwise_cons.2 ⟨fun o m => equal ▸ headBelow o m, restOrdered⟩
          · next unequal =>
              refine List.pairwise_cons.2 ⟨fun other member => ?_, ih restOrdered⟩
              have above : entry.1 < key :=
                Std.lt_of_le_of_ne (Std.not_lt.1 notBelow) fun equal => unequal equal.symm
              have key := mem_keys_insert.1 (List.mem_map_of_mem (f := Prod.fst) member)
              rcases key with equal | later
              · exact equal ▸ above
              · obtain ⟨found, foundMember, foundKey⟩ := List.mem_map.1 later
                exact foundKey ▸ headBelow found foundMember

end Entries

end SearchCollection
