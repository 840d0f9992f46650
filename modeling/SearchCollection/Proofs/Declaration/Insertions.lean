import Mathlib.Data.Finset.Card
import SearchCollection.Proofs.Declaration
import SearchCollection.Proofs.Keys

/-! # Declarations as records of insertions

A declaration starts out empty or is made of a list of entries at once, and then takes one option
after the other (`Declaration.MadeBy`). Its names are those of all the insertions in the order in
which they first came (`FirstCame`): each further insertion keeps that order, whether its name is
new or not (`FirstCame.snoc`). So what a declaration answers is said by the list of the insertions
alone (`Declaration.insertion_ordered`).
-/

namespace SearchCollection

/-! ## Names in the order in which they first came -/

/-- The names listed are those that came, in the order in which they first came. -/
structure FirstCame (came listed : List String) : Prop where
  mem_iff : ∀ name, name ∈ listed ↔ name ∈ came
  ascending : listed.Pairwise fun earlier later => came.idxOf earlier < came.idxOf later

namespace FirstCame

variable {came listed : List String}

theorem nil : FirstCame [] [] where
  mem_iff _ := Iff.rfl
  ascending := .nil

/-- No name is listed twice. -/
theorem nodup (first : FirstCame came listed) : listed.Nodup :=
  first.ascending.imp fun before same => before.ne (congrArg came.idxOf same)

/-- As many names are listed as different ones came. -/
theorem length_eq_card (first : FirstCame came listed) : listed.length = came.toFinset.card := by
  have same : listed.toFinset = came.toFinset := by
    ext name
    rw [List.mem_toFinset, List.mem_toFinset, first.mem_iff]
  rw [← List.toFinset_card_of_nodup first.nodup, same]

/-- The place where a name first came does not change when more names come. -/
theorem ascending_append (first : FirstCame came listed) (more : List String) :
    listed.Pairwise fun earlier later =>
      (came ++ more).idxOf earlier < (came ++ more).idxOf later := by
  refine first.ascending.imp_of_mem fun {earlier later} earlierMember laterMember before => ?_
  have earlierCame : earlier ∈ came := (first.mem_iff earlier).mp earlierMember
  have laterCame : later ∈ came := (first.mem_iff later).mp laterMember
  rwa [List.idxOf_append_of_mem earlierCame, List.idxOf_append_of_mem laterCame]

/-- One more name comes last, unless it is listed already. -/
theorem snoc (first : FirstCame came listed) (name : String) :
    FirstCame (came ++ [name]) (if name ∈ listed then listed else listed ++ [name]) := by
  have kept := first.ascending_append [name]
  -- A name that is listed changes nothing, and one that is not came after all that are.
  by_cases known : name ∈ listed
  · have knownCame : name ∈ came := (first.mem_iff name).mp known
    rw [if_pos known]
    refine ⟨fun other => ?_, kept⟩
    rw [first.mem_iff, List.mem_append, List.mem_singleton]
    exact ⟨.inl, fun either => either.elim id fun same => same ▸ knownCame⟩
  · have newCame : name ∉ came := mt (first.mem_iff name).mpr known
    rw [if_neg known]
    refine ⟨fun other => ?_, List.pairwise_append.mpr ⟨kept, List.pairwise_singleton _ _, ?_⟩⟩
    · rw [List.mem_append, List.mem_append, first.mem_iff]
    · intro earlier member last single
      obtain rfl := List.mem_singleton.mp single
      have earlierCame : earlier ∈ came := (first.mem_iff earlier).mp member
      rw [List.idxOf_append_of_mem earlierCame, List.idxOf_append_of_notMem newCame]
      exact Nat.lt_add_right _ (List.idxOf_lt_length_of_mem earlierCame)

end FirstCame

namespace Declaration

/-! ## Insertions -/

/-- The ways to a declaration, with all that was inserted on the way. -/
inductive MadeBy : List (String × FieldOption) → Declaration → Prop
  | empty : MadeBy [] Declaration.empty
  | ofList (entries : List (String × FieldOption)) : MadeBy entries (Declaration.ofList entries)
  | insert {given : List (String × FieldOption)} {declaration : Declaration}
      (made : MadeBy given declaration) (name : String) (option : FieldOption) :
      MadeBy (given ++ [(name, option)]) (declaration.insert name option)

variable {given : List (String × FieldOption)} {declaration : Declaration}

/-- It does not matter how many of the insertions were made at once. -/
theorem MadeBy.eq_ofList (made : MadeBy given declaration) :
    declaration = Declaration.ofList given := by
  induction made with
  | empty => rfl
  | ofList entries => rfl
  | insert made name option ih => rw [ofList_append_singleton, ih]

/-- A declaration lists the names of its entries in the order in which they first came. -/
theorem firstCame_names_ofList (entries : List (String × FieldOption)) :
    FirstCame (entries.map Prod.fst) (ofList entries).names := by
  -- From the end of the list, since its last entry is put into what the others have made.
  induction entries using List.reverseRecOn with
  | nil => exact .nil
  | append_singleton entries entry ih =>
      rw [ofList_append_singleton, names_insert, List.map_append, List.map_singleton]
      exact ih.snoc entry.1

/-- Each name is listed with the option that is found under it. -/
theorem mem_entries_iff {name : String} {option : FieldOption} :
    (name, option) ∈ declaration.entries ↔ declaration.get? name = some option := by
  rw [get?, Option.map_eq_some_iff]
  simp only [find?_key_eq_some_iff declaration.nodup]
  constructor
  · intro member
    exact ⟨(name, option), ⟨member, rfl⟩, rfl⟩
  · rintro ⟨⟨_, _⟩, ⟨member, rfl⟩, rfl⟩
    exact member

/-- **A declaration keeps its names in the order of insertion.** However it is made, its names are
distinct and are those that were inserted, in the order in which each was first inserted. Its size
is their number, and it contains these names and no others. Under each name it has the option that
was inserted last, and lists the name with it. An option that replaces the one of its name takes
the same place, and every other entry stays where it is and as it is. -/
theorem insertion_ordered (made : MadeBy given declaration) :
    declaration.names.Nodup ∧
    FirstCame (given.map Prod.fst) declaration.names ∧
    declaration.size = declaration.names.length ∧
    declaration.size = (given.map Prod.fst).toFinset.card ∧
    (∀ name, declaration.contains name = true ↔ name ∈ given.map Prod.fst) ∧
    (∀ name, declaration.get? name =
      ((given.filter fun entry => entry.1 = name).getLast?).map Prod.snd) ∧
    (∀ name option, (name, option) ∈ declaration.entries ↔
      declaration.get? name = some option) ∧
    ∀ name option, declaration.contains name = true →
      (declaration.insert name option).entries =
        declaration.entries.map fun entry => if entry.1 = name then (name, option) else entry := by
  obtain rfl := made.eq_ofList
  have first := firstCame_names_ofList given
  have size : (ofList given).size = (ofList given).names.length := (List.length_map _).symm
  refine ⟨first.nodup, first, size, size.trans first.length_eq_card, ?_, ?_, ?_, ?_⟩
  · intro name
    rw [contains_eq_true_iff, first.mem_iff]
  · intro name
    exact get?_ofList name given
  · intro name option
    exact mem_entries_iff
  · intro name option present
    exact putOption_of_mem option (ofList given).nodup (contains_eq_true_iff.mp present)

/-- Two entries at once and then four options, three of them under names that have one already. -/
theorem insertion_ordered_repeated :
    let given : List (String × FieldOption) :=
      [("title", .tokens "string"), ("year", .tokens "int32"), ("title", .flag true),
        ("author", .tokens "string"), ("year", .flag false), ("year", .tokens "int64")]
    ∃ declaration, MadeBy given declaration ∧ declaration.names = ["title", "year", "author"] ∧
      declaration.size = 3 ∧ declaration.contains "year" = true ∧
      declaration.get? "year" = some (.tokens "int64") ∧
      (declaration.insert "year" (.flag true)).entries =
        [("title", .flag true), ("year", .flag true), ("author", .tokens "string")] := by
  intro given
  have made : MadeBy given _ :=
    ((((MadeBy.ofList [("title", .tokens "string"), ("year", .tokens "int32")]).insert
      "title" (.flag true)).insert "author" (.tokens "string")).insert
        "year" (.flag false)).insert "year" (.tokens "int64")
  obtain ⟨-, -, -, size, contains, last, -, replaced⟩ := insertion_ordered made
  have present := (contains "year").mpr (by decide)
  exact ⟨_, made, rfl, size, present, last "year", replaced "year" (.flag true) present⟩

end Declaration

end SearchCollection
