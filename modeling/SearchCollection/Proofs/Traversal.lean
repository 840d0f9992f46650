import Mathlib.Data.List.Forall2

/-! # Checking items in order

What is declared is checked item by item, and the first item at fault decides
(`FirstFault`). A check in order succeeds with one result for each item
(`mapM_eq_ok_iff`) or fails with the first fault (`mapM_eq_error_iff`).

Some items are given under keys, and no key may be given twice. For them the
first fault (`keyedFault?`) also depends on the keys given before an item; there
is none exactly when every key is given once and every item is fine for itself
(`keyedFault?_eq_none_iff`).

What a check should answer can also be given by relations for its results and its
faults (`Answers`); a check in order is right where it is right for each item
(`Answers.mapM`).
-/

namespace SearchCollection

variable {α β ε : Type}

/-- The fault of an item that fails a check, with no item at fault before it. -/
def FirstFault (check : α → Except ε β) (items : List α) (fault : ε) : Prop :=
  ∃ before item after, items = before ++ item :: after ∧
    (∀ earlier ∈ before, ∃ result, check earlier = .ok result) ∧ check item = .error fault

theorem not_firstFault_nil (check : α → Except ε β) (fault : ε) : ¬FirstFault check [] fault := by
  rintro ⟨before, item, after, split, -⟩
  cases before <;> cases split

/-- The first fault is the one of the first item, or behind a first item without a fault. -/
theorem firstFault_cons_iff {check : α → Except ε β} {item : α} {rest : List α} {fault : ε} :
    FirstFault check (item :: rest) fault ↔
      check item = .error fault ∨
        (∃ result, check item = .ok result) ∧ FirstFault check rest fault := by
  constructor
  · rintro ⟨before, failing, after, split, passed, failed⟩
    cases before with
    | nil =>
        obtain ⟨rfl, rfl⟩ := List.cons.inj split
        exact .inl failed
    | cons first before =>
        obtain ⟨rfl, rfl⟩ := List.cons.inj split
        refine .inr ⟨passed item List.mem_cons_self, before, failing, after, rfl, ?_, failed⟩
        exact fun earlier member => passed earlier (List.mem_cons_of_mem item member)
  · rintro (failed | ⟨first, before, failing, after, rfl, passed, failed⟩)
    · exact ⟨[], item, rest, rfl, fun _ member => (List.not_mem_nil member).elim, failed⟩
    · refine ⟨item :: before, failing, after, rfl, ?_, failed⟩
      intro earlier member
      rcases List.mem_cons.mp member with rfl | member
      · exact first
      · exact passed earlier member

/-- Some item fails exactly when there is a first fault. -/
theorem exists_firstFault_iff {check : α → Except ε β} {items : List α} :
    (∃ fault, FirstFault check items fault) ↔
      ∃ item ∈ items, ∃ fault, check item = .error fault := by
  induction items with
  | nil => simp [not_firstFault_nil]
  | cons item rest ih =>
      simp only [firstFault_cons_iff, exists_or, exists_and_left, ih, List.exists_mem_cons_iff]
      cases check item with
      | error fault => simp
      | ok result => simp

/-- A check in order succeeds exactly when every item does, with the results in order. -/
theorem mapM_eq_ok_iff {check : α → Except ε β} {items : List α} {results : List β} :
    items.mapM check = .ok results ↔
      List.Forall₂ (fun item result => check item = .ok result) items results := by
  induction items generalizing results with
  | nil => simp [pure, Except.pure, eq_comm]
  | cons item rest ih =>
      rw [List.mapM_cons, List.forall₂_cons_left_iff]
      cases first : check item with
      | error fault => simp [bind, Except.bind]
      | ok result =>
          simp only [← ih, Except.ok.injEq]
          cases rest.mapM check with
          | error fault => simp [bind, Except.bind]
          | ok others => simp [bind, Except.bind, pure, Except.pure, eq_comm]

/-- A check in order fails exactly with the first fault. -/
theorem mapM_eq_error_iff {check : α → Except ε β} {items : List α} {fault : ε} :
    items.mapM check = .error fault ↔ FirstFault check items fault := by
  induction items with
  | nil => simp [pure, Except.pure, not_firstFault_nil]
  | cons item rest ih =>
      rw [List.mapM_cons, firstFault_cons_iff, ← ih]
      cases check item with
      | error other => simp [bind, Except.bind]
      | ok result =>
          cases rest.mapM check <;> simp [bind, Except.bind, pure, Except.pure]

/-- What is made of the results can be made of each as it comes. -/
theorem map_mapM {γ : Type} (check : α → Except ε β) (view : β → γ) (items : List α) :
    (items.mapM check).map (List.map view) = items.mapM fun item => (check item).map view := by
  induction items with
  | nil => rfl
  | cons item rest ih =>
      rw [List.mapM_cons, List.mapM_cons, ← ih]
      cases check item with
      | error fault => rfl
      | ok result => cases rest.mapM check <;> rfl

theorem mapM_congr {first second : α → Except ε β} {items : List α}
    (same : ∀ item ∈ items, first item = second item) :
    items.mapM first = items.mapM second := by
  induction items with
  | nil => rfl
  | cons item rest ih =>
      obtain ⟨head, tail⟩ := List.forall_mem_cons.mp same
      rw [List.mapM_cons, List.mapM_cons, head, ih tail]

/-- There are results for all items exactly when there is one for each. -/
theorem exists_forall₂_iff {related : α → β → Prop} {items : List α} :
    (∃ results, List.Forall₂ related items results) ↔
      ∀ item ∈ items, ∃ result, related item result := by
  induction items with
  | nil => simp
  | cons item rest ih =>
      rw [List.forall_mem_cons, ← ih]
      constructor
      · rintro ⟨_, each⟩
        obtain ⟨result, results, head, tail, -⟩ := List.forall₂_cons_left_iff.mp each
        exact ⟨⟨result, head⟩, results, tail⟩
      · rintro ⟨⟨result, head⟩, results, tail⟩
        exact ⟨result :: results, .cons head tail⟩

theorem exists_mem_of_forall₂ {related : α → β → Prop} {items : List α} {results : List β}
    (each : List.Forall₂ related items results) {result : β} (member : result ∈ results) :
    ∃ item ∈ items, related item result := by
  induction each with
  | nil => exact (List.not_mem_nil member).elim
  | @cons item _ _ _ head _ ih =>
      rcases List.mem_cons.mp member with rfl | later
      · exact ⟨item, List.mem_cons_self, head⟩
      · obtain ⟨found, among, related⟩ := ih later
        exact ⟨found, List.mem_cons_of_mem item among, related⟩

/-- A check in order succeeds exactly when every item can be checked. -/
theorem exists_mapM_eq_ok_iff {check : α → Except ε β} {items : List α} :
    (∃ results, items.mapM check = .ok results) ↔
      ∀ item ∈ items, ∃ result, check item = .ok result := by
  simp only [mapM_eq_ok_iff, exists_forall₂_iff]

/-- What fails exactly with a found fault succeeds exactly when none is found. -/
theorem exists_eq_ok_iff_of_error_iff {answer : Except ε α} {found? : Option ε}
    (fails : ∀ fault, answer = .error fault ↔ found? = some fault) :
    (∃ result, answer = .ok result) ↔ found? = none := by
  cases answer with
  | error fault => simp [(fails fault).mp rfl]
  | ok result =>
      refine iff_of_true ⟨result, rfl⟩ (Option.eq_none_iff_forall_not_mem.mpr ?_)
      intro fault found
      cases (fails fault).mpr found

theorem exists_eq_ok_of_isOk {answer : Except ε α} (succeeds : answer.isOk = true) :
    ∃ value, answer = .ok value := by
  cases answer with
  | error fault => cases succeeds
  | ok value => exact ⟨value, rfl⟩

theorem exists_of_map_eq_ok {answer : Except ε α} {view : α → β} {seen : β}
    (answered : answer.map view = .ok seen) : ∃ value, answer = .ok value ∧ view value = seen := by
  cases answer with
  | error fault => cases answered
  | ok value => exact ⟨value, rfl, Except.ok.inj answered⟩

theorem map_eq_ok_iff {answer : Except ε α} {view : α → β} {seen : β} :
    answer.map view = .ok seen ↔ ∃ value, answer = .ok value ∧ view value = seen := by
  refine ⟨exists_of_map_eq_ok, ?_⟩
  rintro ⟨value, rfl, rfl⟩
  rfl

theorem map_eq_error_iff {answer : Except ε α} {view : α → β} {fault : ε} :
    answer.map view = .error fault ↔ answer = .error fault := by
  cases answer <;> simp [Except.map]

theorem mapError_eq_ok_iff {γ : Type} {answer : Except ε α} {view : ε → γ} {value : α} :
    answer.mapError view = .ok value ↔ answer = .ok value := by
  cases answer <;> simp [Except.mapError]

theorem mapError_eq_error_iff {γ : Type} {answer : Except ε α} {view : ε → γ} {seen : γ} :
    answer.mapError view = .error seen ↔ ∃ fault, answer = .error fault ∧ view fault = seen := by
  cases answer <;> simp [Except.mapError]

/-- Two answers that agree in a view are the same fault, or values that agree in it. -/
theorem fault_or_value_of_map_eq {γ : Type} {first : Except ε α} {second : Except ε β}
    {viewFirst : α → γ} {viewSecond : β → γ}
    (same : first.map viewFirst = second.map viewSecond) :
    (∃ fault, first = .error fault ∧ second = .error fault) ∨
      ∃ value other, first = .ok value ∧ second = .ok other ∧
        viewFirst value = viewSecond other := by
  cases first with
  | error fault =>
      cases second with
      | error other =>
          have equal := Except.error.inj same
          exact .inl ⟨fault, rfl, congrArg Except.error equal.symm⟩
      | ok other => cases same
  | ok value =>
      cases second with
      | error fault => cases same
      | ok other => exact .inr ⟨value, other, rfl, rfl, Except.ok.inj same⟩

variable {κ : Type} [DecidableEq κ]

/-- The first fault of the items, when the keys in `seen` have been given already. An item without
a key is fine; `fault repeated key item` is what is wrong with another, if anything, where
`repeated` says whether its key has been given before. -/
def keyedFault? (keyOf? : α → Option κ) (fault : Bool → κ → α → Option ε) (seen : List κ) :
    List α → Option ε
  | [] => none
  | item :: rest =>
      match keyOf? item with
      | none => keyedFault? keyOf? fault seen rest
      | some key =>
          (fault (decide (key ∈ seen)) key item).or (keyedFault? keyOf? fault (key :: seen) rest)

section Keyed

variable {keyOf? : α → Option κ} {fault : Bool → κ → α → Option ε} {seen : List κ}
  {item : α} {items rest : List α} {key : κ} {found : ε}

theorem keyedFault?_cons_of_none (unkeyed : keyOf? item = none) :
    keyedFault? keyOf? fault seen (item :: rest) = keyedFault? keyOf? fault seen rest := by
  rw [keyedFault?, unkeyed]

/-- An item with a key is at fault itself, or else one behind it is. -/
theorem keyedFault?_cons_of_some (keyed : keyOf? item = some key) :
    keyedFault? keyOf? fault seen (item :: rest) =
      (fault (decide (key ∈ seen)) key item).or (keyedFault? keyOf? fault (key :: seen) rest) := by
  rw [keyedFault?, keyed]

/-- Where giving a key a second time is always a fault, there is no fault exactly when every key
is new and given once and no item is at fault for itself. -/
theorem keyedFault?_eq_none_iff (repetition : ∀ key item, fault true key item ≠ none) :
    keyedFault? keyOf? fault seen items = none ↔
      (∀ key ∈ seen, key ∉ items.filterMap keyOf?) ∧ (items.filterMap keyOf?).Nodup ∧
        ∀ item ∈ items, ∀ key, keyOf? item = some key → fault false key item = none := by
  induction items generalizing seen with
  | nil => simp [keyedFault?]
  | cons item rest ih =>
      cases keyed : keyOf? item with
      | none =>
          rw [keyedFault?_cons_of_none keyed, ih, List.filterMap_cons_none keyed,
            List.forall_mem_cons]
          simp [keyed]
      | some key =>
          rw [keyedFault?_cons_of_some keyed, Option.or_eq_none_iff, ih,
            List.filterMap_cons_some keyed, List.nodup_cons]
          by_cases given : key ∈ seen
          · simp only [given, decide_true]
            refine ⟨fun none => (repetition key item none.1).elim, fun fine => ?_⟩
            exact (fine.1 key given List.mem_cons_self).elim
          · simp only [given, decide_false, List.forall_mem_cons, keyed, Option.some.injEq,
              forall_eq']
            constructor
            · rintro ⟨fine, ⟨fresh, new⟩, nodup, others⟩
              refine ⟨fun other member => ?_, ⟨fresh, nodup⟩, fine, others⟩
              refine List.not_mem_cons_of_ne_of_not_mem ?_ (new other member)
              rintro rfl
              exact given member
            · rintro ⟨new, ⟨fresh, nodup⟩, fine, others⟩
              exact ⟨fine, ⟨fresh, fun other member =>
                (List.ne_and_not_mem_of_not_mem_cons (new other member)).2⟩, nodup, others⟩

/-- The first fault is that of an item with no fault before it, judged by the keys before it. -/
theorem keyedFault?_eq_some_iff :
    keyedFault? keyOf? fault seen items = some found ↔
      ∃ before item after key, items = before ++ item :: after ∧
        keyedFault? keyOf? fault seen before = none ∧ keyOf? item = some key ∧
        fault (decide (key ∈ seen ∨ key ∈ before.filterMap keyOf?)) key item = some found := by
  induction items generalizing seen with
  | nil => simp [keyedFault?]
  | cons first rest ih =>
      constructor
      · intro failed
        cases keyed : keyOf? first with
        | none =>
            rw [keyedFault?_cons_of_none keyed] at failed
            obtain ⟨before, item, after, key, rfl, fine, given, fault⟩ := ih.mp failed
            refine ⟨first :: before, item, after, key, rfl, ?_, given, ?_⟩
            · rw [keyedFault?_cons_of_none keyed, fine]
            · rwa [List.filterMap_cons_none keyed]
        | some firstKey =>
            rw [keyedFault?_cons_of_some keyed, Option.or_eq_some_iff] at failed
            rcases failed with failed | ⟨passed, failed⟩
            · exact ⟨[], first, rest, firstKey, rfl, rfl, keyed, by simpa using failed⟩
            · obtain ⟨before, item, after, key, rfl, fine, given, fault⟩ := ih.mp failed
              refine ⟨first :: before, item, after, key, rfl, ?_, given, ?_⟩
              · rw [keyedFault?_cons_of_some keyed, passed, Option.none_or, fine]
              · rw [List.filterMap_cons_some keyed]
                simpa only [List.mem_cons, or_assoc, or_left_comm] using fault
      · rintro ⟨before, item, after, key, split, fine, given, failed⟩
        cases before with
        | nil =>
            obtain ⟨rfl, rfl⟩ := List.cons.inj split
            rw [keyedFault?_cons_of_some given, Option.or_eq_some_iff]
            exact .inl (by simpa using failed)
        | cons _ before =>
            obtain ⟨rfl, rfl⟩ := List.cons.inj split
            cases keyed : keyOf? first with
            | none =>
                rw [keyedFault?_cons_of_none keyed] at fine ⊢
                rw [List.filterMap_cons_none keyed] at failed
                exact ih.mpr ⟨before, item, after, key, rfl, fine, given, failed⟩
            | some firstKey =>
                rw [keyedFault?_cons_of_some keyed, Option.or_eq_none_iff] at fine
                rw [keyedFault?_cons_of_some keyed, fine.1, Option.none_or]
                refine ih.mpr ⟨before, item, after, key, rfl, fine.2, given, ?_⟩
                rw [List.filterMap_cons_some keyed] at failed
                simpa only [List.mem_cons, or_assoc, or_left_comm] using failed

end Keyed

section Answers

/-- The fault of a bad item with only good ones before it. -/
inductive FirstBad (good : α → β → Prop) (bad : α → ε → Prop) : List α → ε → Prop
  | intro {before after : List α} {item : α} {fault : ε}
      (fine : ∀ earlier ∈ before, ∃ result, good earlier result) (fails : bad item fault) :
      FirstBad good bad (before ++ item :: after) fault

namespace FirstBad

variable {good : α → β → Prop} {bad : α → ε → Prop} {item : α} {rest : List α} {fault : ε}

theorem here (fails : bad item fault) : FirstBad good bad (item :: rest) fault :=
  @intro α β ε good bad [] rest item fault (fun _ member => (List.not_mem_nil member).elim) fails

theorem later {result : β} (fine : good item result) (behind : FirstBad good bad rest fault) :
    FirstBad good bad (item :: rest) fault := by
  obtain @⟨before, after, failing, _, others, fails⟩ := behind
  rw [← List.cons_append]
  exact .intro (List.forall_mem_cons.mpr ⟨⟨result, fine⟩, others⟩) fails

end FirstBad

/-- The results and the faults that are answered are exactly those of the relations. -/
structure Answers (answer : Except ε β) (good : β → Prop) (bad : ε → Prop) : Prop where
  ok_iff : ∀ result, answer = .ok result ↔ good result
  error_iff : ∀ fault, answer = .error fault ↔ bad fault

namespace Answers

variable {answer : Except ε β} {good : β → Prop} {bad : ε → Prop}

/-- A result is answered rightly when it is the only one and there is no fault. -/
theorem of_ok {result : β} (right : good result) (only : ∀ other, good other → other = result)
    (never : ∀ fault, ¬bad fault) : Answers (.ok result) good bad where
  ok_iff other := ⟨fun same => Except.ok.inj same ▸ right, fun found => only other found ▸ rfl⟩
  error_iff fault := iff_of_false nofun (never fault)

/-- A fault is answered rightly when it is the only one and there is no result. -/
theorem of_error {fault : ε} (right : bad fault) (only : ∀ other, bad other → other = fault)
    (never : ∀ result, ¬good result) : Answers (.error fault) good bad where
  ok_iff result := iff_of_false nofun (never result)
  error_iff other :=
    ⟨fun same => Except.error.inj same ▸ right, fun found => only other found ▸ rfl⟩

/-- What is answered rightly is so for relations that hold of the same. -/
theorem congr {otherGood : β → Prop} {otherBad : ε → Prop} (answers : Answers answer good bad)
    (sameGood : ∀ result, good result ↔ otherGood result)
    (sameBad : ∀ fault, bad fault ↔ otherBad fault) : Answers answer otherGood otherBad where
  ok_iff result := (answers.ok_iff result).trans (sameGood result)
  error_iff fault := (answers.error_iff fault).trans (sameBad fault)

/-- There is an answer exactly when there is a result. -/
theorem exists_ok_iff (answers : Answers answer good bad) :
    (∃ result, answer = .ok result) ↔ ∃ result, good result :=
  exists_congr answers.ok_iff

/-- There is one result at most. -/
theorem unique (answers : Answers answer good bad) {first second : β} (right : good first)
    (alsoRight : good second) : first = second := by
  rw [← answers.ok_iff] at right alsoRight
  exact Except.ok.inj (right.symm.trans alsoRight)

/-- What is made of the result is right where the result was. -/
theorem map {γ : Type} (answers : Answers answer good bad) (view : β → γ) :
    Answers (answer.map view) (fun seen => ∃ result, good result ∧ view result = seen) bad where
  ok_iff seen := by
    rw [map_eq_ok_iff]
    exact exists_congr fun result => and_congr_left fun _ => answers.ok_iff result
  error_iff fault := by rw [map_eq_error_iff, answers.error_iff]

/-- What is made of the fault is right where the fault was. -/
theorem mapError {γ : Type} (answers : Answers answer good bad) (view : ε → γ) :
    Answers (answer.mapError view) good (fun seen => ∃ fault, bad fault ∧ view fault = seen) where
  ok_iff result := by rw [mapError_eq_ok_iff, answers.ok_iff]
  error_iff seen := by
    rw [mapError_eq_error_iff]
    exact exists_congr fun fault => and_congr_left fun _ => answers.error_iff fault

/-- A check of a list is right where it is for each item: with the results of all items, or with
the fault of the first bad one. -/
theorem mapM {check : α → Except ε β} {good : α → β → Prop} {bad : α → ε → Prop} {items : List α}
    (each : ∀ item ∈ items, Answers (check item) (good item) (bad item)) :
    Answers (items.mapM check) (List.Forall₂ good items) (FirstBad good bad items) where
  ok_iff results := by
    rw [mapM_eq_ok_iff]
    constructor
    · intro made
      refine ((List.forall₂_and_left items results).mpr ⟨each, made⟩).imp ?_
      exact fun item result both => (both.1.ok_iff result).mp both.2
    · intro made
      refine ((List.forall₂_and_left items results).mpr ⟨each, made⟩).imp ?_
      exact fun item result both => (both.1.ok_iff result).mpr both.2
  error_iff fault := by
    rw [mapM_eq_error_iff]
    constructor
    · rintro ⟨before, item, after, rfl, passed, failed⟩
      obtain ⟨front, back⟩ := List.forall_mem_append.mp each
      have here := (List.forall_mem_cons.mp back).1
      refine .intro ?_ ((here.error_iff fault).mp failed)
      exact fun earlier member => (front earlier member).exists_ok_iff.mp (passed earlier member)
    · rintro @⟨before, after, item, _, fine, fails⟩
      obtain ⟨front, back⟩ := List.forall_mem_append.mp each
      have here := (List.forall_mem_cons.mp back).1
      refine ⟨before, item, after, rfl, ?_, (here.error_iff fault).mpr fails⟩
      exact fun earlier member => (front earlier member).exists_ok_iff.mpr (fine earlier member)

end Answers

end Answers

end SearchCollection
