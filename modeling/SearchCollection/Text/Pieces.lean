/-! # Cutting a text at a separator

`split` gives the pieces between the separators, always one more than there are
separators, and `join` puts them back (`join_split`). `cut` cuts a text at its
first separator only.
-/

namespace SearchCollection.Text

/-- The pieces between the separators, in order. -/
def split (separator : Char) : List Char → List (List Char)
  | [] => [[]]
  | c :: rest =>
      if c = separator then [] :: split separator rest
      else (c :: (split separator rest).headD []) :: (split separator rest).tail

/-- The pieces with one separator between each two neighbours. -/
def join (separator : Char) : List (List Char) → List Char
  | [] => []
  | [piece] => piece
  | piece :: next :: rest => piece ++ separator :: join separator (next :: rest)

/-- The parts before and after the first separator, if there is one. -/
def cut (separator : Char) : List Char → Option (List Char × List Char)
  | [] => none
  | c :: rest =>
      if c = separator then some ([], rest)
      else (cut separator rest).map fun parts => (c :: parts.1, parts.2)

theorem split_ne_nil (separator : Char) (cs : List Char) : split separator cs ≠ [] := by
  cases cs with
  | nil => simp [split]
  | cons c rest => by_cases same : c = separator <;> simp [split, same]

/-- A character in front of the first piece is a character in front of the whole. -/
theorem join_cons_head (separator c : Char) {pieces : List (List Char)} (some : pieces ≠ []) :
    join separator ((c :: pieces.headD []) :: pieces.tail) = c :: join separator pieces := by
  match pieces, some with
  | [_], _ => rfl
  | _ :: _ :: _, _ => rfl

/-- Cutting a text at the separators loses nothing. -/
theorem join_split (separator : Char) (cs : List Char) :
    join separator (split separator cs) = cs := by
  induction cs with
  | nil => rfl
  | cons c rest ih =>
      by_cases same : c = separator
      · simp only [split, same, ↓reduceIte]
        match pieces : split separator rest, split_ne_nil separator rest with
        | piece :: others, _ => rw [pieces] at ih; simp [join, ih]
      · simp only [split, same, ↓reduceIte]
        rw [join_cons_head separator c (split_ne_nil separator rest), ih]

/-- There is one piece more than there are separators. -/
theorem length_split (separator : Char) (cs : List Char) :
    (split separator cs).length = cs.count separator + 1 := by
  induction cs with
  | nil => rfl
  | cons c rest ih =>
      by_cases same : c = separator
      · simp [split, same, ih]
      · have some := split_ne_nil separator rest
        have := List.length_pos_iff.2 some
        simp only [split, same, ↓reduceIte, List.length_cons, List.length_tail, ih]
        rw [List.count_cons_of_ne (by simpa using same)]
        omega

/-- A cut text is its two parts with the separator between them. -/
theorem eq_of_cut {separator : Char} {cs before after : List Char}
    (parts : cut separator cs = some (before, after)) :
    cs = before ++ separator :: after ∧ separator ∉ before := by
  induction cs generalizing before after with
  | nil => simp [cut] at parts
  | cons c rest ih =>
      by_cases same : c = separator
      · simp only [cut, same, ↓reduceIte, Option.some.injEq, Prod.mk.injEq] at parts
        simp [← parts.1, ← parts.2, same]
      · simp only [cut, same, ↓reduceIte, Option.map_eq_some_iff, Prod.mk.injEq] at parts
        obtain ⟨⟨head, tail⟩, cutRest, rfl, rfl⟩ := parts
        obtain ⟨whole, absent⟩ := ih cutRest
        refine ⟨by simp [whole], ?_⟩
        simp only [List.mem_cons, not_or]
        exact ⟨fun equal => same equal.symm, absent⟩

/-- A text cannot be cut exactly when it has no separator. -/
theorem cut_eq_none_iff {separator : Char} {cs : List Char} :
    cut separator cs = none ↔ separator ∉ cs := by
  induction cs with
  | nil => simp [cut]
  | cons c rest ih =>
      by_cases same : c = separator
      · simp [cut, same]
      · simp only [cut, same, ↓reduceIte, Option.map_eq_none_iff, ih, List.mem_cons, not_or]
        exact ⟨fun absent => ⟨fun equal => same equal.symm, absent⟩, fun both => both.2⟩

end SearchCollection.Text
