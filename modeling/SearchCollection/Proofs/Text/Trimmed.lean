import SearchCollection.Text.Blank

/-! # What a text is trimmed to

Trimming takes the blanks off the two ends of a text and leaves a text that begins
and ends with none. Among all texts that one is found between blanks in the text
(`Text.TrimsTo`), and it is the only one (`Text.trim_eq_iff`).
-/

namespace SearchCollection.Text

/-- The text is the name with blanks on its two sides, and the name begins and ends with none. -/
def TrimsTo (text name : String) : Prop :=
  Trimmed name.toList ∧ ∃ before after : List Char, text.toList = before ++ name.toList ++ after ∧
    (∀ c ∈ before, isBlank c) ∧ ∀ c ∈ after, isBlank c

variable {cs : List Char} {c : Char}

/-- Only blanks are taken away on the left. -/
theorem exists_append_trimLeft (cs : List Char) :
    ∃ before, cs = before ++ trimLeft cs ∧ ∀ c ∈ before, isBlank c := by
  refine ⟨cs.takeWhile isBlank, List.takeWhile_append_dropWhile.symm, ?_⟩
  exact List.all_eq_true.mp List.all_takeWhile

/-- What is left begins with no blank. -/
theorem isBlank_of_head?_trimLeft (first : (trimLeft cs).head? = some c) : isBlank c = false := by
  have kept := List.head?_dropWhile_not isBlank cs
  rw [trimLeft] at first
  rw [first] at kept
  simpa using kept

/-- The end of a text is trimmed as the start of the reversed text is. -/
theorem trimRight_eq_reverse (cs : List Char) : trimRight cs = (trimLeft cs.reverse).reverse :=
  rfl

/-- Only blanks are taken away on the right. -/
theorem exists_trimRight_append (cs : List Char) :
    ∃ after, cs = trimRight cs ++ after ∧ ∀ c ∈ after, isBlank c := by
  obtain ⟨before, split, blank⟩ := exists_append_trimLeft cs.reverse
  refine ⟨before.reverse, ?_, fun c member => blank c (List.mem_reverse.mp member)⟩
  rw [trimRight_eq_reverse, ← List.reverse_append, ← split, List.reverse_reverse]

/-- What is left between the blanks has none at its ends. -/
theorem trimmed_trimChars (cs : List Char) : Trimmed (trimChars cs) where
  head c first := by
    -- What is left of the end of a text begins as the text does.
    obtain ⟨after, split, -⟩ := exists_trimRight_append (trimLeft cs)
    have begins : (trimLeft cs).head? = some c := by
      rw [split, List.head?_append]
      exact Option.or_eq_some_iff.mpr (.inl first)
    exact isBlank_of_head?_trimLeft begins
  last c final := by
    rw [trimChars, trimRight_eq_reverse, List.getLast?_reverse] at final
    exact isBlank_of_head?_trimLeft final

/-- A text is trimmed to the one text without blanks at its ends that stands in it between
blanks. -/
theorem trim_eq_iff {text name : String} : trim text = name ↔ TrimsTo text name := by
  constructor
  · rintro rfl
    obtain ⟨before, front, blankBefore⟩ := exists_append_trimLeft text.toList
    obtain ⟨after, back, blankAfter⟩ := exists_trimRight_append (trimLeft text.toList)
    refine ⟨toList_trim text ▸ trimmed_trimChars _, before, after, ?_, blankBefore, blankAfter⟩
    rw [toList_trim, List.append_assoc, trimChars, ← back, ← front]
  · rintro ⟨trimmed, before, after, split, blankBefore, blankAfter⟩
    rw [← String.toList_inj, toList_trim, split]
    exact trimChars_of_trimmed blankBefore trimmed blankAfter

end SearchCollection.Text
