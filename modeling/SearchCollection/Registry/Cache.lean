/-! # Caches

A cache holds values under keys. A value is added only under a key that has
none, so what is held is never replaced while it stays, and keys are dropped by
a condition on them. `get?_add` and `get?_drop` say what is found afterwards.
-/

namespace SearchCollection

/-- Values under keys, no key twice when built by `add`. -/
structure Cache (κ : Type) (α : Type) where
  entries : List (κ × α) := []

namespace Cache

variable {κ : Type} {α : Type} [DecidableEq κ]

def get? (cache : Cache κ α) (key : κ) : Option α :=
  (cache.entries.find? fun entry => entry.1 = key).map Prod.snd

def contains (cache : Cache κ α) (key : κ) : Bool :=
  (cache.get? key).isSome

omit [DecidableEq κ] in
def size (cache : Cache κ α) : Nat :=
  cache.entries.length

/-- The cache with a value under a key; one that is there already stays. -/
def add (cache : Cache κ α) (key : κ) (value : α) : Cache κ α :=
  if cache.contains key then cache else ⟨cache.entries ++ [(key, value)]⟩

omit [DecidableEq κ] in
/-- The cache without the keys that fulfil a condition. -/
def drop (cache : Cache κ α) (condition : κ → Bool) : Cache κ α :=
  ⟨cache.entries.filter fun entry => !condition entry.1⟩

/-- A value is found under the key it was added for, unless there was one before it. -/
theorem get?_add (cache : Cache κ α) (key other : κ) (value : α) :
    (cache.add key value).get? other =
      if other = key then some ((cache.get? key).getD value) else cache.get? other := by
  unfold add contains
  split
  · next held =>
      obtain ⟨old, found⟩ := Option.isSome_iff_exists.1 held
      split
      · next same => simp [same, found]
      · rfl
  · next absent =>
      have missing : cache.get? key = none := by simpa using absent
      simp only [get?, List.find?_append, Option.map_or] at missing ⊢
      split
      · next same => subst same; simp [missing]
      · next differs =>
          have unequal : ¬key = other := fun equal => differs equal.symm
          simp [unequal]

/-- What is dropped is found no more, and the rest as before. -/
theorem get?_drop (cache : Cache κ α) (condition : κ → Bool) (key : κ) :
    (cache.drop condition).get? key = if condition key then none else cache.get? key := by
  obtain ⟨entries⟩ := cache
  simp only [get?, drop]
  induction entries with
  | nil => simp
  | cons entry rest ih =>
      by_cases dropped : condition entry.1
      · simp only [List.filter_cons, dropped, Bool.not_true, Bool.false_eq_true, ↓reduceIte, ih]
        split
        · rfl
        · next kept =>
            have differs : ¬entry.1 = key := fun same => kept (same ▸ dropped)
            simp [differs]
      · by_cases same : entry.1 = key
        · subst same; simp [dropped]
        · simp only [List.filter_cons, dropped, List.find?_cons, same, decide_false, Bool.not_false,
            ↓reduceIte]
          exact ih

end Cache

end SearchCollection
