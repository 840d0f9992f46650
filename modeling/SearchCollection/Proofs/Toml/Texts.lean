import Mathlib.Data.List.Basic
import SearchCollection.Toml.Scalar
import SearchCollection.Toml.Writer

/-! # Written texts are read back

However a text is written, between one or three quotes of either kind, the reader finds it again
(`Toml.text?_writeText`). Between double quotes every character is a plain one or an escape
sequence for it (`Escapes`). Between three quotes up to two quotes in a row stand for themselves,
also right before the closing ones, so that the reader is followed with the quotes that it has just
seen still in front of it (`ReadsLines`).
-/

namespace SearchCollection.Toml

/-! ## Escape sequences -/

/-- What stands behind the backslash of an escape sequence for a character. -/
inductive Escapes (c : Char) : List Char → Prop where
  | letter {letter : Char} (short : shortEscape? letter = some c) : Escapes c [letter]
  | code {digits : List Char} (four : digits.length = 4) (coded : codeChar? digits = some c) :
      Escapes c ('u' :: digits)

/-- The letters of escape sequences. -/
theorem mem_of_shortEscape? {letter c : Char} (short : shortEscape? letter = some c) :
    letter ∈ ['b', 't', 'n', 'f', 'r', '"', '\\'] := by
  unfold shortEscape? at short
  split at short
  case h_8 => cases short
  all_goals simp

namespace Escapes

variable {c : Char} {body : List Char}

/-- An escape sequence is read as its character. -/
theorem escape?_eq (escapes : Escapes c body) (rest : List Char) :
    escape? (body ++ rest) = some (c, rest) := by
  cases escapes with
  | @letter letter short =>
      have known := mem_of_shortEscape? short
      have step : escapeStep? letter = some (.char c) := by
        rw [escapeStep?, if_neg, if_neg, short, Option.map_some]
        · rintro rfl
          simp at known
        · rintro rfl
          simp at known
      rw [List.singleton_append, escape?, step]
  | @code digits four coded =>
      have enough : ¬(digits ++ rest).length < 4 := by
        rw [List.length_append]
        omega
      rw [List.cons_append, escape?, show escapeStep? 'u' = some (.code 4) from rfl]
      dsimp only
      rw [if_neg enough, List.take_left' four, List.drop_left' four, coded, Option.map_some]

/-- An escape sequence is no line end. -/
theorem joinedLines?_eq_none (escapes : Escapes c body) (rest : List Char) :
    joinedLines? (body ++ rest) = none := by
  have solid (first : Char) (known : first ∈ ['b', 't', 'n', 'f', 'r', '"', '\\', 'u'])
      (cs : List Char) : joinedLines? (first :: cs) = none := by
    simp only [List.mem_cons, List.not_mem_nil, or_false] at known
    rcases known with rfl | rfl | rfl | rfl | rfl | rfl | rfl | rfl <;> rfl
  cases escapes with
  | letter short =>
      refine solid _ ?_ _
      exact List.mem_append_left ['u'] (mem_of_shortEscape? short)
  | code => exact solid 'u' (by simp) _

end Escapes

/-- The hexadecimal digits of a small number, four of them. -/
def codeDigits (n : Nat) : List Char :=
  let digits := (Nat.toDigits 16 n).map Char.toUpper
  List.replicate (4 - digits.length) '0' ++ digits

/-- The four digits of a small number are read as the character of that number. -/
theorem codeChar?_codeDigits :
    ∀ n < 128, (codeDigits n).length = 4 ∧ codeChar? (codeDigits n) = some (.ofNat n) := by
  decide

/-- A control character is written as an escape sequence for it. -/
theorem exists_writeEscape {c : Char} (control : c.toNat < 32 ∨ c = '\x7f') :
    ∃ body, writeEscape c = '\\' :: body ∧ Escapes c body := by
  unfold writeEscape
  split
  · exact ⟨_, rfl, .letter rfl⟩
  · exact ⟨_, rfl, .letter rfl⟩
  · exact ⟨_, rfl, .letter rfl⟩
  · exact ⟨_, rfl, .letter rfl⟩
  · exact ⟨_, rfl, .letter rfl⟩
  · have small : c.toNat < 128 := by
      rcases control with low | rfl
      · omega
      · decide
    obtain ⟨four, coded⟩ := codeChar?_codeDigits c.toNat small
    rw [Char.ofNat_toNat] at coded
    exact ⟨'u' :: codeDigits c.toNat, rfl, .code four coded⟩

/-- What needs no escape sequence is a character of a text or a line end. -/
theorem isTextChar_of_plain {c : Char} (high : ¬c.toNat < 32) (visible : c ≠ '\x7f') :
    isTextChar c := by
  have above : ' ' ≤ c := Nat.le_of_not_lt high
  simp [isTextChar, above, visible]

/-! ## On one line -/

variable {c : Char} {cs rest content more : List Char}

theorem basicText?_escape {body : List Char} (escapes : Escapes c body)
    (read : basicText? rest = some (content, more)) :
    basicText? ('\\' :: (body ++ rest)) = some (c :: content, more) := by
  rw [basicText?, escapes.escape?_eq]
  dsimp only
  rw [if_pos, read, Option.map_some]
  rw [List.length_append]
  omega

theorem basicText?_char (text : isTextChar c) (open_ : c ≠ '"') (plain : c ≠ '\\')
    (read : basicText? rest = some (content, more)) :
    basicText? (c :: rest) = some (c :: content, more) := by
  rw [basicText?.eq_4 c rest open_ plain, if_pos text, read, Option.map_some]

/-- An escaped text on one line is read up to its closing quote. -/
theorem basicText?_writeEscaped (quotes : Nat) (cs rest : List Char) :
    basicText? (writeEscaped false quotes cs ++ '"' :: rest) = some (cs, rest) := by
  induction cs generalizing quotes with
  | nil => rw [writeEscaped, List.nil_append, basicText?]
  | cons c cs ih =>
      rw [writeEscaped, Bool.false_and, Bool.and_false]
      by_cases quote : c = '"'
      · subst quote
        rw [if_pos rfl, if_neg Bool.false_ne_true]
        have read := basicText?_escape (.letter rfl : Escapes '"' ['"']) (ih 0)
        exact read
      rw [if_neg quote]
      by_cases slash : c = '\\'
      · subst slash
        rw [if_pos rfl]
        have read := basicText?_escape (.letter rfl : Escapes '\\' ['\\']) (ih 0)
        exact read
      rw [if_neg slash, if_neg Bool.false_ne_true]
      split
      · next control =>
          obtain ⟨body, written, escapes⟩ := exists_writeEscape (by simpa using control)
          rw [written, List.cons_append, List.cons_append, List.append_assoc]
          exact basicText?_escape escapes (ih 0)
      · next plain =>
          simp only [Bool.or_eq_true, decide_eq_true_eq, not_or] at plain
          exact basicText?_char (isTextChar_of_plain plain.1 plain.2) quote slash (ih 0)

/-- Between single quotes a text is read as it stands. -/
theorem literalText?_append (text : ∀ c ∈ cs, isTextChar c ∧ c ≠ '\x27') (rest : List Char) :
    literalText? (cs ++ '\x27' :: rest) = some (cs, rest) := by
  induction cs with
  | nil => rw [List.nil_append, literalText?, if_pos rfl]
  | cons c cs ih =>
      obtain ⟨⟨isText, open_⟩, text⟩ := List.forall_mem_cons.mp text
      rw [List.cons_append, literalText?, if_neg open_, if_pos isText, ih text, Option.map_some]

/-! ## Over several lines -/

/-- A reader of texts between three marks: it takes plain characters as they are, a mark among
them unless two more follow. -/
structure ReadsLines (mark : Char) (plain : Char → Prop)
    (read : List Char → Option (List Char × List Char)) : Prop where
  plain_mark : plain mark
  closes (rest : List Char) : read (mark :: mark :: mark :: rest) = some (closingQuotes mark rest)
  keeps {c : Char} {rest content more : List Char} (isPlain : plain c)
    (opened : ∀ after, c = mark → rest ≠ mark :: mark :: after)
    (reads : read rest = some (content, more)) : read (c :: rest) = some (c :: content, more)

/-- Up to two quotes before a character of another kind are part of the text. -/
theorem closingQuotes_replicate {mark : Char} {count : Nat} (few : count ≤ 2)
    (next : rest.head? ≠ some mark) :
    closingQuotes mark (List.replicate count mark ++ rest) = (List.replicate count mark, rest) := by
  have stop (c : Char) (after : List Char) (same : rest = c :: after) : c ≠ mark := by
    rintro rfl
    exact next (same ▸ rfl)
  match count with
  | 0 =>
      match rest with
      | [] => rfl
      | [c] => simp [closingQuotes, stop c [] rfl]
      | c :: d :: after => simp [closingQuotes, stop c _ rfl]
  | 1 =>
      match rest with
      | [] => simp [closingQuotes]
      | c :: after => simp [closingQuotes, stop c _ rfl]
  | 2 => simp [closingQuotes]

namespace ReadsLines

variable {mark : Char} {plain : Char → Prop} {read : List Char → Option (List Char × List Char)}
  {count : Nat}

/-- Up to two marks before the closing ones belong to the text. -/
theorem closes_replicate (reader : ReadsLines mark plain read) (few : count ≤ 2)
    (next : rest.head? ≠ some mark) :
    read (List.replicate count mark ++ mark :: mark :: mark :: rest) =
      some (List.replicate count mark, rest) := by
  have moved : List.replicate count mark ++ mark :: mark :: mark :: rest =
      mark :: mark :: mark :: (List.replicate count mark ++ rest) := by
    match count with
    | 0 => rfl
    | 1 => rfl
    | 2 => rfl
  rw [moved, reader.closes, closingQuotes_replicate few next]

/-- Up to two marks in a row stand for themselves. -/
theorem keeps_replicate (reader : ReadsLines mark plain read) (few : count ≤ 2)
    (next : rest.head? ≠ some mark) (reads : read rest = some (content, more)) :
    read (List.replicate count mark ++ rest) =
      some (List.replicate count mark ++ content, more) := by
  have single : read (mark :: rest) = some (mark :: content, more) := by
    refine reader.keeps reader.plain_mark ?_ reads
    rintro after - rfl
    exact next rfl
  match count with
  | 0 => exact reads
  | 1 => exact single
  | 2 =>
      refine reader.keeps reader.plain_mark ?_ single
      rintro after - same
      obtain ⟨-, rfl⟩ := List.cons.inj same
      exact next rfl

end ReadsLines

/-- Between three double quotes all stands for itself but the backslash. -/
theorem readsLines_basic : ReadsLines '"' (fun c => (isTextChar c ∨ c = '\n') ∧ c ≠ '\\')
    basicLines? where
  plain_mark := by decide
  closes rest := by rw [basicLines?]
  keeps := by
    rintro c rest content more ⟨text, slash⟩ opened reads
    have kept : isTextChar c || decide (c = '\n') := by simpa using text
    rw [basicLines?.eq_5 c rest (fun after => opened after) ?_ slash, if_pos kept, reads,
      Option.map_some]
    rintro - rfl -
    exact absurd text (by decide)

/-- Between three single quotes all stands for itself. -/
theorem readsLines_literal : ReadsLines '\x27' (fun c => isTextChar c ∨ c = '\n')
    literalLines? where
  plain_mark := by decide
  closes rest := by rw [literalLines?]
  keeps := by
    rintro c rest content more text opened reads
    have kept : isTextChar c || decide (c = '\n') := by simpa using text
    rw [literalLines?.eq_4 c rest (fun after => opened after) ?_, if_pos kept, reads,
      Option.map_some]
    rintro - rfl -
    exact absurd text (by decide)

theorem basicLines?_escape {body : List Char} (escapes : Escapes c body)
    (read : basicLines? rest = some (content, more)) :
    basicLines? ('\\' :: (body ++ rest)) = some (c :: content, more) := by
  rw [basicLines?, escapes.joinedLines?_eq_none, escapes.escape?_eq]
  dsimp only
  rw [if_pos, read, Option.map_some]
  rw [List.length_append]
  omega

/-- The quotes that were written last, `quotes` of them, are still in front of the reader. -/
theorem basicLines?_writeEscaped {quotes : Nat} (few : quotes ≤ 2) (cs : List Char)
    (next : rest.head? ≠ some '"') :
    basicLines? (List.replicate quotes '"' ++
        (writeEscaped true quotes cs ++ '"' :: '"' :: '"' :: rest)) =
      some (List.replicate quotes '"' ++ cs, rest) := by
  induction cs generalizing quotes with
  | nil =>
      rw [writeEscaped, List.nil_append, List.append_nil]
      exact readsLines_basic.closes_replicate few next
  | cons c cs ih =>
      have tail := ih (Nat.zero_le 2)
      rw [List.replicate_zero, List.nil_append, List.nil_append] at tail
      rw [writeEscaped, Bool.true_and, Bool.and_true]
      by_cases quote : c = '"'
      · subst quote
        rw [if_pos rfl]
        split
        · next fewer =>
            have less : quotes < 2 := of_decide_eq_true fewer
            have again := ih (Nat.succ_le_of_lt less)
            rwa [List.replicate_succ', List.append_assoc, List.append_assoc] at again
        · refine readsLines_basic.keeps_replicate few (by simp) ?_
          have read := basicLines?_escape (.letter rfl : Escapes '"' ['"']) tail
          exact read
      rw [if_neg quote]
      by_cases slash : c = '\\'
      · subst slash
        rw [if_pos rfl]
        refine readsLines_basic.keeps_replicate few (by simp) ?_
        have read := basicLines?_escape (.letter rfl : Escapes '\\' ['\\']) tail
        exact read
      rw [if_neg slash]
      have plainly (text : isTextChar c ∨ c = '\n') :
          basicLines? (List.replicate quotes '"' ++
            (c :: writeEscaped true 0 cs ++ '"' :: '"' :: '"' :: rest)) =
          some (List.replicate quotes '"' ++ c :: cs, rest) := by
        refine readsLines_basic.keeps_replicate few (by simpa using quote) ?_
        exact readsLines_basic.keeps ⟨text, slash⟩ (fun _ same => (quote same).elim) tail
      split
      · next newline =>
          have newline : c = '\n' := of_decide_eq_true newline
          have read := plainly (.inr newline)
          rwa [newline] at read ⊢
      split
      · next control =>
          obtain ⟨body, written, escapes⟩ := exists_writeEscape (by simpa using control)
          rw [written, List.cons_append, List.cons_append, List.append_assoc]
          refine readsLines_basic.keeps_replicate few (by simp) ?_
          exact basicLines?_escape escapes tail
      · next plain =>
          simp only [Bool.or_eq_true, decide_eq_true_eq, not_or] at plain
          exact plainly (.inl (isTextChar_of_plain plain.1 plain.2))

/-- The quotes that were written last, `quotes` of them, are still in front of the reader. -/
theorem literalLines?_append {quotes : Nat} (few : longestRun '\x27' quotes cs ≤ 2)
    (text : ∀ c ∈ cs, isTextChar c ∨ c = '\n') (next : rest.head? ≠ some '\x27') :
    literalLines? (List.replicate quotes '\x27' ++
        (cs ++ '\x27' :: '\x27' :: '\x27' :: rest)) =
      some (List.replicate quotes '\x27' ++ cs, rest) := by
  induction cs generalizing quotes with
  | nil =>
      rw [List.nil_append, List.append_nil]
      exact readsLines_literal.closes_replicate few next
  | cons c cs ih =>
      obtain ⟨isText, others⟩ := List.forall_mem_cons.mp text
      rw [longestRun] at few
      by_cases quote : c = '\x27'
      · subst quote
        rw [if_pos rfl] at few
        have again := ih few others
        rwa [List.replicate_succ', List.append_assoc, List.append_assoc] at again
      · rw [if_neg quote] at few
        have tail := ih (Nat.le_trans (Nat.le_max_right ..) few) others
        rw [List.replicate_zero, List.nil_append, List.nil_append] at tail
        refine readsLines_literal.keeps_replicate (Nat.le_trans (Nat.le_max_left ..) few)
          (by simpa using quote) ?_
        exact readsLines_literal.keeps isText (fun _ same => (quote same).elim) tail

/-! ## The four ways to write a text -/

theorem le_longestRun (mark : Char) (count : Nat) (cs : List Char) :
    count ≤ longestRun mark count cs := by
  induction cs generalizing count with
  | nil => exact Nat.le_refl count
  | cons c cs ih =>
      rw [longestRun]
      split
      · exact Nat.le_of_succ_le (ih (count + 1))
      · exact Nat.le_max_left ..

theorem not_mem_of_longestRun {mark : Char} (none : longestRun mark 0 cs = 0) : mark ∉ cs := by
  induction cs with
  | nil => exact List.not_mem_nil
  | cons c cs ih =>
      rw [longestRun] at none
      split at none
      · have one := le_longestRun mark (0 + 1) cs
        omega
      · next other =>
          have rest : longestRun mark 0 cs = 0 := by omega
          exact List.not_mem_cons_of_ne_of_not_mem (Ne.symm other) (ih rest)

/-- A character that needs no escape is one of texts or ends a line. -/
theorem isTextChar_of_not_needsEscape (kept : ¬needsEscape c) : isTextChar c ∨ c = '\n' := by
  by_cases tab : c = '\t'
  · exact .inl (by simp [isTextChar, tab])
  by_cases newline : c = '\n'
  · exact .inr newline
  simp only [needsEscape, Bool.or_eq_true, Bool.and_eq_true, decide_eq_true_eq, tab, newline,
    ne_eq, not_false_eq_true, and_true, not_or] at kept
  exact .inl (isTextChar_of_plain kept.1 kept.2)

/-- What a text is like if it is written in a style: between single quotes there are no escape
sequences. -/
def TextStyle.Suits (cs : List Char) : TextStyle → Prop
  | .basic | .basicLines => True
  | .literal => ∀ c ∈ cs, isTextChar c ∧ c ≠ '\x27'
  | .literalLines => longestRun '\x27' 0 cs ≤ 2 ∧ ∀ c ∈ cs, isTextChar c ∨ c = '\n'

/-- The style chosen for a text suits it. -/
theorem suits_ofText (cs : List Char) : (TextStyle.ofText cs).Suits cs := by
  have plain (escapes : cs.any needsEscape = false) : ∀ c ∈ cs, isTextChar c ∨ c = '\n' :=
    fun c member => isTextChar_of_not_needsEscape (List.any_eq_false.mp escapes c member)
  unfold TextStyle.ofText
  dsimp only
  split
  · trivial
  split
  · next kept =>
      simp only [Bool.and_eq_true, Bool.not_eq_true', decide_eq_true_eq, List.contains_eq_mem,
        decide_eq_false_iff_not] at kept
      obtain ⟨⟨escapes, single⟩, newline⟩ := kept
      intro c member
      refine ⟨(plain escapes c member).resolve_right ?_, ?_⟩
      · rintro rfl
        exact newline member
      · rintro rfl
        exact not_mem_of_longestRun single member
  split
  · trivial
  split
  · next kept =>
      simp only [Bool.and_eq_true, Bool.not_eq_true', decide_eq_true_eq] at kept
      exact ⟨kept.2, plain kept.1⟩
  split <;> trivial

/-- No line end is next in front of another character. -/
theorem lineEnd?_cons (newline : c ≠ '\n') (carriage : c ≠ '\r') : lineEnd? (c :: rest) = none := by
  unfold lineEnd?
  split
  · next same => exact (newline (List.cons.inj same).1).elim
  · next same => exact (carriage (List.cons.inj same).1).elim
  · rfl

/-- An escaped text and its quote begin with no carriage return, and with the end of a line only if
the text has one. -/
theorem exists_writeEscaped_eq_cons (cs rest : List Char) :
    ∃ c after, writeEscaped true 0 cs ++ '"' :: rest = c :: after ∧ c ≠ '\r' ∧
      (c = '\n' → '\n' ∈ cs) := by
  cases cs with
  | nil => exact ⟨'"', rest, rfl, by decide, nofun⟩
  | cons c cs =>
      rw [writeEscaped, Bool.true_and, Bool.and_true]
      split
      · exact ⟨'"', _, rfl, by decide, nofun⟩
      split
      · exact ⟨'\\', _, rfl, by decide, nofun⟩
      split
      · next newline =>
          exact ⟨'\n', _, rfl, by decide, fun _ =>
            of_decide_eq_true newline ▸ List.mem_cons_self⟩
      split
      · next control =>
          obtain ⟨body, written, -⟩ := exists_writeEscape (by simpa using control)
          rw [written]
          exact ⟨'\\', _, rfl, by decide, nofun⟩
      · next plain =>
          refine ⟨c, _, rfl, ?_, fun newline => newline ▸ List.mem_cons_self⟩
          rintro rfl
          exact plain (by decide)

/-- A text between double quotes is read back. -/
theorem text?_basic (cs : List Char) (next : rest.head? ≠ some '"') :
    text? ('"' :: (writeEscaped false 0 cs ++ '"' :: rest)) = some (.ofList cs, rest) := by
  have read := basicText?_writeEscaped 0 cs rest
  have two (after : List Char) :
      writeEscaped false 0 cs ++ '"' :: rest ≠ '"' :: '"' :: after := by
    -- A second quote would end the text at once, and then the third one would follow it.
    intro same
    rw [same, basicText?, Option.some.injEq, Prod.mk.injEq] at read
    exact next (read.2 ▸ rfl)
  rw [text?.eq_3, lineText?, read, Option.map_some]
  · exact fun after same => two after (List.cons.inj same).2
  · exact fun after same => absurd (List.cons.inj same).1 (by decide)

/-- A text between single quotes is read back. -/
theorem text?_literal (text : ∀ c ∈ cs, isTextChar c ∧ c ≠ '\x27')
    (next : rest.head? ≠ some '\x27') :
    text? ('\x27' :: (cs ++ '\x27' :: rest)) = some (.ofList cs, rest) := by
  have read := literalText?_append text rest
  have two (after : List Char) : cs ++ '\x27' :: rest ≠ '\x27' :: '\x27' :: after := by
    intro same
    rw [same, literalText?, if_pos rfl, Option.some.injEq, Prod.mk.injEq] at read
    exact next (read.2 ▸ rfl)
  rw [text?.eq_3, lineText?, read, Option.map_some]
  · exact fun after same => absurd (List.cons.inj same).1 (by decide)
  · exact fun after same => two after (List.cons.inj same).2

/-- What is put between the opening quotes and a text over several lines. -/
def lineStart (cs : List Char) : List Char :=
  if cs.contains '\n' then ['\n'] else []

/-- The line end that is put before several lines is passed over, and no other one. -/
theorem skipLineEnd_lineStart (carriage : c ≠ '\r') (newline : c = '\n' → '\n' ∈ cs) :
    skipLineEnd (lineStart cs ++ c :: rest) = c :: rest := by
  unfold lineStart
  split
  · rfl
  · next single =>
      have other : c ≠ '\n' := fun same => single (List.contains_iff_mem.mpr (newline same))
      rw [List.nil_append, skipLineEnd, lineEnd?_cons other carriage, Option.getD_none]

/-- A text between three double quotes is read back. -/
theorem text?_basicLines (cs : List Char) (next : rest.head? ≠ some '"') :
    text? ('"' :: '"' :: '"' :: (lineStart cs ++ (writeEscaped true 0 cs ++
      '"' :: '"' :: '"' :: rest))) = some (.ofList cs, rest) := by
  have read := basicLines?_writeEscaped (Nat.zero_le 2) cs next
  obtain ⟨c, after, first, carriage, newline⟩ :=
    exists_writeEscaped_eq_cons cs ('"' :: '"' :: rest)
  rw [List.replicate_zero, List.nil_append, first, List.nil_append] at read
  rw [first, text?, skipLineEnd_lineStart carriage newline, read, Option.map_some]

/-- A text between three single quotes is read back. -/
theorem text?_literalLines (few : longestRun '\x27' 0 cs ≤ 2)
    (text : ∀ c ∈ cs, isTextChar c ∨ c = '\n') (next : rest.head? ≠ some '\x27') :
    text? ('\x27' :: '\x27' :: '\x27' :: (lineStart cs ++ (cs ++
      '\x27' :: '\x27' :: '\x27' :: rest))) = some (.ofList cs, rest) := by
  have read := literalLines?_append few text next
  obtain ⟨c, after, first, carriage, newline⟩ : ∃ c after,
      cs ++ '\x27' :: '\x27' :: '\x27' :: rest = c :: after ∧ c ≠ '\r' ∧
        (c = '\n' → '\n' ∈ cs) := by
    cases cs with
    | nil => exact ⟨'\x27', _, rfl, by decide, nofun⟩
    | cons c cs =>
        refine ⟨c, _, rfl, ?_, fun same => same ▸ List.mem_cons_self⟩
        rintro rfl
        exact absurd (text '\r' List.mem_cons_self) (by decide)
  rw [List.replicate_zero, List.nil_append, first, List.nil_append] at read
  rw [first, text?, skipLineEnd_lineStart carriage newline, read, Option.map_some]

/-- The characters of a written text with its quotes. -/
theorem toList_writeText (text : String) :
    (writeText text).toList = match TextStyle.ofText text.toList with
      | .basic => '"' :: (writeEscaped false 0 text.toList ++ ['"'])
      | .literal => '\x27' :: (text.toList ++ ['\x27'])
      | .basicLines => '"' :: '"' :: '"' :: (lineStart text.toList ++
          (writeEscaped true 0 text.toList ++ ['"', '"', '"']))
      | .literalLines => '\x27' :: '\x27' :: '\x27' :: (lineStart text.toList ++
          (text.toList ++ ['\x27', '\x27', '\x27'])) := by
  have start : (if text.toList.contains '\n' then "\n" else "").toList =
      lineStart text.toList := by
    unfold lineStart
    split <;> rfl
  unfold writeText
  dsimp only
  simp only [String.toList_append, String.toList_ofList, List.append_assoc]
  cases TextStyle.ofText text.toList with
  | basic => rfl
  | literal => rfl
  | basicLines =>
      rw [TextStyle.runsOverLines, Bool.true_and, start]
      rfl
  | literalLines =>
      rw [TextStyle.runsOverLines, Bool.true_and, start]
      rfl

/-- **Written texts are read back**, whatever follows them but a quote. -/
theorem text?_writeText (text : String) {rest : List Char} (basic : rest.head? ≠ some '"')
    (literal : rest.head? ≠ some '\x27') :
    text? ((writeText text).toList ++ rest) = some (text, rest) := by
  have suits := suits_ofText text.toList
  have back : some (String.ofList text.toList, rest) = some (text, rest) := by
    rw [String.ofList_toList]
  rw [toList_writeText, ← back]
  cases style : TextStyle.ofText text.toList with
  | basic =>
      simp only [List.cons_append, List.append_assoc, List.nil_append]
      exact text?_basic text.toList basic
  | literal =>
      rw [style] at suits
      simp only [List.cons_append, List.append_assoc, List.nil_append]
      exact text?_literal suits literal
  | basicLines =>
      simp only [List.cons_append, List.append_assoc, List.nil_append]
      exact text?_basicLines text.toList basic
  | literalLines =>
      rw [style] at suits
      simp only [List.cons_append, List.append_assoc, List.nil_append]
      exact text?_literalLines suits.1 suits.2 literal

end SearchCollection.Toml
