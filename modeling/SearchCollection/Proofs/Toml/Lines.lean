import Mathlib.Data.List.TakeDrop
import SearchCollection.Configuration.Text
import SearchCollection.Proofs.Toml.Texts

/-! # Lines of settings files

Headers with one bare key and entries that give a text to a bare key are read line by line
(`Toml.lines?_header`, `Toml.lines?_entry`): a header begins a table, and an entry is put into the
table that was begun last.
-/

namespace SearchCollection.Toml

open SearchCollection.Configuration (writeEntry)
open Text (isInlineBlank)

variable {key name : String} {cs rest : List Char} {progress after : Progress}

/-! ## Keys -/

/-- A key that is written without quotes. -/
def IsBare (key : String) : Prop :=
  key.toList ≠ [] ∧ ∀ c ∈ key.toList, c.isAlphanum || c = '_' || c = '-'

instance : DecidablePred IsBare :=
  fun key => @instDecidableAnd _ _ _ (List.decidableBAll _ key.toList)

/-- A character that stands behind a bare key belongs to no key. -/
def IsStop (c : Char) : Prop :=
  c = ' ' ∨ c = ']'

/-- What no key has is not in front of a bare key. -/
theorem IsBare.ne_cons (bare : IsBare key) {c : Char}
    (outside : (c.isAlphanum || decide (c = '_') || decide (c = '-')) = false)
    (rest tail : List Char) : key.toList ++ rest ≠ c :: tail := by
  intro same
  obtain ⟨first, others, chars⟩ := List.exists_cons_of_ne_nil bare.1
  have inside := bare.2 first (chars ▸ List.mem_cons_self)
  rw [chars, List.cons_append] at same
  rw [(List.cons.inj same).1, outside] at inside
  cases inside

/-- A bare key is read up to a character that belongs to no key. -/
theorem keyPart?_bare (bare : IsBare key) {c : Char} (stop : IsStop c) (rest : List Char) :
    keyPart? (key.toList ++ c :: rest) = some (key, c :: rest) := by
  have outside : (c.isAlphanum || decide (c = '_') || decide (c = '-')) = false := by
    rcases stop with rfl | rfl <;> rfl
  rw [keyPart?.eq_3 _ (bare.ne_cons rfl _) (bare.ne_cons rfl _),
    List.span_eq_takeWhile_dropWhile, List.takeWhile_append_of_pos bare.2,
    List.dropWhile_append_of_pos bare.2, List.takeWhile_cons_of_neg (by simp [outside]),
    List.dropWhile_cons_of_neg (by simp [outside]), List.append_nil]
  dsimp only
  rw [if_neg (by simpa using bare.1), String.ofList_toList]

theorem dropWhile_isInlineBlank_bare (bare : IsBare key) (rest : List Char) :
    (key.toList ++ rest).dropWhile isInlineBlank = key.toList ++ rest := by
  cases chars : key.toList ++ rest with
  | nil => rfl
  | cons first others =>
      apply List.dropWhile_cons_of_neg
      simp only [isInlineBlank, Bool.or_eq_true, decide_eq_true_eq, not_or]
      constructor
      · rintro rfl
        exact bare.ne_cons rfl _ _ chars
      · rintro rfl
        exact bare.ne_cons rfl _ _ chars

/-- A bare key ends at a closing bracket. -/
theorem key?_header (bare : IsBare key) (rest : List Char) :
    key? (key.toList ++ ']' :: rest) = some ([key], ']' :: rest) := by
  rw [key?, dropWhile_isInlineBlank_bare bare, keyPart?_bare bare (.inr rfl)]
  rfl

/-- A bare key ends at the equals sign, or at the blank before it. -/
theorem key?_entry (bare : IsBare key) (rest : List Char) :
    key? (key.toList ++ ' ' :: '=' :: rest) = some ([key], '=' :: rest) := by
  rw [key?, dropWhile_isInlineBlank_bare bare, keyPart?_bare bare (.inl rfl)]
  rfl

/-! ## One line -/

/-- A line of which the content is read is passed over with its end. -/
theorem lines?_of_content (content : content? progress (skipBlanks cs) = some (after, '\n' :: rest))
    (shorter : rest.length < cs.length) : lines? progress cs = lines? after rest := by
  have kept : skipComment (skipBlanks ('\n' :: rest)) = '\n' :: rest := rfl
  have newline : lineEnd? ('\n' :: rest) = some rest := rfl
  rw [lines?, content, Option.bind_eq_bind, Option.bind_some]
  simp only [kept, newline, shorter, if_true]

theorem lines?_end (progress : Progress) : lines? progress [] = some progress := by
  rw [lines?]
  rfl

theorem lines?_blank (progress : Progress) (rest : List Char) :
    lines? progress ('\n' :: rest) = lines? progress rest := by
  apply lines?_of_content
  · rfl
  · exact Nat.lt_succ_self _

/-- The header of a table with a bare key. -/
def header (name : String) : String :=
  "[" ++ name ++ "]\n"

/-- A header opens the table of its name. -/
theorem lines?_header (bare : IsBare name) {entries : DraftEntries}
    (opened : progress.entries.openTable? [] name = some entries) (rest : List Char) :
    lines? progress ((header name).toList ++ rest) = lines? ⟨entries, [name]⟩ rest := by
  have chars : (header name).toList ++ rest = '[' :: (name.toList ++ ']' :: '\n' :: rest) := by
    simp [header]
  rw [chars]
  apply lines?_of_content
  · change content? progress ('[' :: (name.toList ++ ']' :: '\n' :: rest)) = _
    rw [content?, header?.eq_2 _ _ (bare.ne_cons rfl _), key?_header bare]
    change (do
      let entries ← progress.entries.openTable? [] name
      pure (({ entries := entries, current := [name] } : Progress), '\n' :: rest)) = _
    rw [opened]
    rfl
  · simp only [List.length_cons, List.length_append]
    omega

/-- A text is written with a quote at its beginning. -/
theorem exists_writeText_eq_cons (text : String) :
    ∃ quote tail, (writeText text).toList = quote :: tail ∧ (quote = '"' ∨ quote = '\x27') := by
  rw [toList_writeText]
  cases TextStyle.ofText text.toList <;> simp

/-- A text is read as a value, behind a blank as well. -/
theorem value?_writeText (depth : Nat) (text : String) (rest : List Char) :
    value? depth (skipBlanks (' ' :: ((writeText text).toList ++ '\n' :: rest))) =
      some (.text text, '\n' :: rest) := by
  have next (quote : Char) (other : '\n' ≠ quote) : ('\n' :: rest).head? ≠ some quote :=
    fun same => other (Option.some.inj same)
  have read := text?_writeText text (next '"' (by decide)) (next '\x27' (by decide))
  obtain ⟨quote, tail, chars, isQuote⟩ := exists_writeText_eq_cons text
  rw [chars, List.cons_append] at read ⊢
  rcases isQuote with rfl | rfl
  · change value? depth ('"' :: (tail ++ '\n' :: rest)) = _
    rw [value?, read, Option.map_some]
  · change value? depth ('\x27' :: (tail ++ '\n' :: rest)) = _
    rw [value?, read, Option.map_some]

/-- A written entry is read as its key and its value. -/
theorem pair?_entry (bare : IsBare key) (value : String) (rest : List Char) :
    pair? (value? maxDepth) ((writeEntry key value).toList ++ rest) =
      some ([], key, .text value, '\n' :: rest) := by
  have chars : (writeEntry key value).toList ++ rest =
      key.toList ++ ' ' :: '=' :: ' ' :: ((writeText value).toList ++ '\n' :: rest) := by
    simp [writeEntry]
  have parts : splitKey? [key] = some ([], key) := rfl
  have equals (more : List Char) : after? '=' ('=' :: more) = some more := by
    rw [after?, if_pos rfl]
  rw [chars, pair?, key?_entry bare]
  simp only [Option.bind_eq_bind, Option.bind_some, parts, equals, value?_writeText]
  rfl

/-- A written entry is inserted into the current table. -/
theorem lines?_entry (bare : IsBare key) {value : String} {entries : DraftEntries}
    (inserted : progress.entries.insertAt? progress.current [] key (.text value) = some entries)
    (rest : List Char) :
    lines? progress ((writeEntry key value).toList ++ rest) =
      lines? { progress with entries := entries } rest := by
  have read := pair?_entry bare value rest
  obtain ⟨after, chars, shorter⟩ : ∃ after,
      (writeEntry key value).toList ++ rest = key.toList ++ after ∧
        rest.length < (key.toList ++ after).length := by
    refine ⟨' ' :: '=' :: ' ' :: ((writeText value).toList ++ '\n' :: rest), ?_, ?_⟩
    · simp [writeEntry]
    · simp only [List.length_append, List.length_cons]
      omega
  rw [chars] at read ⊢
  apply lines?_of_content _ shorter
  rw [skipBlanks, dropWhile_isInlineBlank_bare bare]
  cases line : key.toList ++ after with
  | nil => exact (bare.1 (List.append_eq_nil_iff.mp line).1).elim
  | cons c others =>
      have other (mark : Char)
          (outside : (mark.isAlphanum || decide (mark = '_') || decide (mark = '-')) = false) :
          c ≠ mark := fun same => bare.ne_cons outside _ _ (same ▸ line)
      rw [line] at read
      rw [content?.eq_3 _ _ _ (other '[' rfl), if_neg, read]
      · simp only [Option.bind_eq_bind, Option.bind_some, inserted]
        rfl
      · simp [other '#' rfl, other '\n' rfl, other '\r' rfl]

end SearchCollection.Toml
