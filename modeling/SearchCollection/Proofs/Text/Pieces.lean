import SearchCollection.Text.Pieces

/-! # Putting pieces together and cutting them apart again

Cutting at a separator and joining with it are the list functions `List.splitOn`
and `List.intercalate`, whose laws are thereby known of them: pieces that hold no
separator are found again in their joined text (`Text.split_join`), and no piece
of a text holds one (`Text.not_mem_of_mem_split`). A text put together at its
first separator is cut there (`Text.cut_append`).
-/

namespace SearchCollection.Text

variable {separator : Char} {pieces : List (List Char)} {cs piece before : List Char}

theorem split_eq_splitOn (separator : Char) (cs : List Char) :
    split separator cs = cs.splitOn separator := by
  induction cs with
  | nil => rw [List.splitOn_nil, split]
  | cons c rest ih =>
      rw [split, List.splitOn_cons_eq_if_modifyHead, ih]
      by_cases same : c = separator
      · rw [if_pos same, if_pos (beq_iff_eq.mpr same)]
      · rw [if_neg same, if_neg (mt beq_iff_eq.mp same)]
        cases pieces : rest.splitOn separator with
        | nil => exact (List.splitOn_ne_nil separator rest pieces).elim
        | cons first others => rfl

theorem join_eq_intercalate (separator : Char) (pieces : List (List Char)) :
    join separator pieces = [separator].intercalate pieces := by
  induction pieces with
  | nil => rfl
  | cons piece rest ih =>
      cases rest with
      | nil => rw [join, List.intercalate_singleton]
      | cons next rest =>
          rw [join, ih, List.intercalate_cons_cons, List.append_assoc, List.singleton_append]

/-- Pieces without a separator are found again in their joined text. -/
theorem split_join (some : pieces ≠ []) (plain : ∀ piece ∈ pieces, separator ∉ piece) :
    split separator (join separator pieces) = pieces := by
  rw [split_eq_splitOn, join_eq_intercalate]
  exact List.splitOn_intercalate separator plain some

/-- No piece has a separator. -/
theorem not_mem_of_mem_split (member : piece ∈ split separator cs) : separator ∉ piece := by
  induction cs generalizing piece with
  | nil =>
      rw [split, List.mem_singleton] at member
      exact member ▸ List.not_mem_nil
  | cons c rest ih =>
      rw [split] at member
      by_cases same : c = separator
      · rw [if_pos same, List.mem_cons] at member
        rcases member with rfl | later
        · exact List.not_mem_nil
        · exact ih later
      · rw [if_neg same, List.mem_cons] at member
        cases pieces : split separator rest with
        | nil => exact (split_ne_nil separator rest pieces).elim
        | cons first others =>
            rw [pieces] at member ih
            rcases member with rfl | later
            · rw [List.headD_cons, List.mem_cons, not_or]
              exact ⟨fun equal => same equal.symm, ih List.mem_cons_self⟩
            · exact ih (List.mem_cons_of_mem first later)

theorem cut_append (absent : separator ∉ before) (after : List Char) :
    cut separator (before ++ separator :: after) = some (before, after) := by
  induction before with
  | nil => rw [List.nil_append, cut, if_pos rfl]
  | cons c rest ih =>
      rw [List.mem_cons, not_or] at absent
      rw [List.cons_append, cut, if_neg fun equal => absent.1 equal.symm, ih absent.2]
      rfl

/-- Where all pieces are empty, the joined text is separators. -/
theorem eq_of_mem_join {c : Char} (empty : ∀ piece ∈ pieces, piece = [])
    (member : c ∈ join separator pieces) : c = separator := by
  fun_induction join separator pieces with
  | case1 => cases member
  | case2 piece =>
      rw [empty piece List.mem_cons_self] at member
      cases member
  | case3 piece next rest ih =>
      obtain ⟨first, others⟩ := List.forall_mem_cons.mp empty
      rw [first, List.nil_append, List.mem_cons] at member
      rcases member with same | later
      · exact same
      · exact ih others later

end SearchCollection.Text
