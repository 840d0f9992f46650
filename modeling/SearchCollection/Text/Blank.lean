/-! # Blank characters

A text is trimmed of blanks on both sides before it is read as a number, a
Boolean or a field name. The blanks are the characters with Unicode's property
White_Space (`isBlank`), those of ASCII and others, such as the no-break space.
-/

namespace SearchCollection.Text

/-- The code points with the property White_Space, as inclusive ranges in order. -/
def blankRanges : List (Nat × Nat) :=
  [(0x9, 0xD), (0x20, 0x20), (0x85, 0x85), (0xA0, 0xA0), (0x1680, 0x1680), (0x2000, 0x200A),
   (0x2028, 0x2029), (0x202F, 0x202F), (0x205F, 0x205F), (0x3000, 0x3000)]

/-- Whether a code point lies in one of the inclusive ranges. -/
def inRanges (ranges : List (Nat × Nat)) (code : Nat) : Bool :=
  ranges.any fun range => range.1 ≤ code && code ≤ range.2

/-- Whether a character counts as white space. -/
def isBlank (c : Char) : Bool :=
  inRanges blankRanges c.toNat

/-- Whether a character is a blank that settings and declaration files have inside a line. -/
def isInlineBlank (c : Char) : Bool :=
  c = ' ' || c = '\t'

/-- The characters without the leading blanks. -/
def trimLeft (cs : List Char) : List Char :=
  cs.dropWhile isBlank

/-- The characters without the trailing blanks. -/
def trimRight (cs : List Char) : List Char :=
  (cs.reverse.dropWhile isBlank).reverse

/-- The characters between the first and the last that are not blank. -/
def trimChars (cs : List Char) : List Char :=
  trimRight (trimLeft cs)

/-- The text without the blanks at its two ends. -/
def trim (s : String) : String :=
  .ofList (trimChars s.toList)

theorem trimLeft_nil : trimLeft [] = [] := rfl

variable {before core after : List Char}

/-- Blanks in front are taken away. -/
theorem trimLeft_append_of_blank (blank : ∀ c ∈ before, isBlank c) (cs : List Char) :
    trimLeft (before ++ cs) = trimLeft cs :=
  List.dropWhile_append_of_pos blank

/-- Blanks behind are taken away. -/
theorem trimRight_append_of_blank (blank : ∀ c ∈ after, isBlank c) (cs : List Char) :
    trimRight (cs ++ after) = trimRight cs := by
  have reversed : ∀ c ∈ after.reverse, isBlank c :=
    fun c member => blank c (List.mem_reverse.mp member)
  unfold trimRight
  rw [List.reverse_append, List.dropWhile_append_of_pos reversed]

/-- Neither end is a blank. -/
structure Trimmed (cs : List Char) : Prop where
  head : ∀ c, cs.head? = some c → isBlank c = false
  last : ∀ c, cs.getLast? = some c → isBlank c = false

theorem Trimmed.of_solid (solid : ∀ c ∈ core, isBlank c = false) : Trimmed core where
  head c first := solid c (List.mem_of_head? first)
  last c final := solid c (List.mem_of_getLast? final)

theorem trimLeft_of_head (solid : ∀ c, core.head? = some c → isBlank c = false) :
    trimLeft core = core := by
  cases core with
  | nil => rfl
  | cons c rest => simp [trimLeft, solid c rfl]

theorem trimRight_of_last (solid : ∀ c, core.getLast? = some c → isBlank c = false) :
    trimRight core = core := by
  have reversed : trimLeft core.reverse = core.reverse := by
    refine trimLeft_of_head fun c first => solid c ?_
    rw [← first, List.head?_reverse]
  unfold trimLeft at reversed
  unfold trimRight
  rw [reversed, List.reverse_reverse]

/-- The blanks around a trimmed text are trimmed, and nothing else is. -/
theorem trimChars_of_trimmed (start : ∀ c ∈ before, isBlank c) (trimmed : Trimmed core)
    (final : ∀ c ∈ after, isBlank c) : trimChars (before ++ core ++ after) = core := by
  have front : trimRight (trimLeft (core ++ after)) = trimRight (core ++ after) := by
    cases core with
    | nil =>
        have none : trimLeft after = [] := by
          simpa [trimLeft_nil] using trimLeft_append_of_blank final []
        have reversed : trimRight after = [] := trimRight_append_of_blank final []
        rw [List.nil_append, none, reversed]
        rfl
    | cons c rest =>
        have kept : trimLeft (c :: rest ++ after) = c :: rest ++ after :=
          trimLeft_of_head trimmed.head
        rw [kept]
  unfold trimChars
  rw [List.append_assoc, trimLeft_append_of_blank start, front, trimRight_append_of_blank final,
    trimRight_of_last trimmed.last]

/-- The blanks around a text without blanks are trimmed, and nothing else is. -/
theorem trimChars_append_append (start : ∀ c ∈ before, isBlank c)
    (solid : ∀ c ∈ core, isBlank c = false) (last : ∀ c ∈ after, isBlank c) :
    trimChars (before ++ core ++ after) = core :=
  trimChars_of_trimmed start (.of_solid solid) last

/-- No decimal digit is a blank. -/
theorem isBlank_of_isDigit {c : Char} (digit : c.isDigit) : isBlank c = false := by
  have range : 48 ≤ c.toNat ∧ c.toNat ≤ 57 := by
    simp only [Char.isDigit, Bool.and_eq_true, decide_eq_true_eq] at digit
    exact digit
  simp only [isBlank, inRanges, blankRanges, List.any_cons, List.any_nil, Bool.or_false,
    Bool.or_eq_false_iff, Bool.and_eq_false_iff, decide_eq_false_iff_not]
  omega

theorem toList_trim (s : String) : (trim s).toList = trimChars s.toList := by
  simp [trim]

end SearchCollection.Text
