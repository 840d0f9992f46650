import SearchCollection.Text.Blank

/-! # The text of a YAML document

Where a character stands decides what it means: a block ends at a lower column,
and a key stands on one line. A text is therefore read as a list of characters
with their places. The ways to end a line are one before that: a carriage
return, a line feed, both together and the next-line character all become a line
feed; the line and paragraph separators end a line too and stay what they are.
-/

namespace SearchCollection.Yaml

open Text (isInlineBlank)

/-- A character of a text with its place. -/
structure Placed where
  char : Char
  line : Nat
  column : Nat

/-- The rest of a text that is still to be read. -/
abbrev Source := List Placed

/-- Whether a character may stand in a text at all: controls may not. -/
def isAllowed (c : Char) : Bool :=
  c = '\t' || c = '\n' || c = '\r' || c = '\u0085' || ' ' ≤ c && c ≤ '~' ||
    '\u00a0' ≤ c && c ≠ '\ufffe' && c ≠ '\uffff'

/-- Whether a character ends a line. -/
def isBreak (c : Char) : Bool :=
  c = '\n' || c = '\u2028' || c = '\u2029'

/-- The characters with one way to end a line. -/
def unifyBreaks : List Char → List Char
  | [] => []
  | '\r' :: '\n' :: rest => '\n' :: unifyBreaks rest
  | c :: rest => (if c = '\r' || c = '\u0085' then '\n' else c) :: unifyBreaks rest

/-- The characters with their places, the first one at the given place. -/
def placeFrom (line column : Nat) : List Char → Source
  | [] => []
  | c :: rest =>
      ⟨c, line, column⟩ ::
        if isBreak c then placeFrom (line + 1) 0 rest else placeFrom line (column + 1) rest

namespace Source

/-- The characters of a text with their places. A byte order mark at the front is passed over, but
takes a column. -/
def ofString? (text : String) : Option Source :=
  if !text.toList.all isAllowed then none
  else match unifyBreaks text.toList with
    | '\ufeff' :: rest => some (placeFrom 0 1 rest)
    | cs => some (placeFrom 0 0 cs)

/-- Whether a blank, the end of the line or the end of the text is next. -/
def atGap : Source → Bool
  | [] => true
  | next :: _ => isInlineBlank next.char || isBreak next.char

/-- Whether the end of the line or of the text is next. -/
def atLineEnd : Source → Bool
  | [] => true
  | next :: _ => isBreak next.char

/-- Whether three equal characters that stand for a document boundary are next: they begin a line
and a gap follows them. -/
def atBoundary (mark : Char) : Source → Bool
  | a :: b :: c :: rest =>
      a.column = 0 && a.char = mark && b.char = mark && c.char = mark && atGap rest
  | _ => false

/-- Whether the start or the end of a document is marked here. -/
def atAnyBoundary (source : Source) : Bool :=
  source.atBoundary '-' || source.atBoundary '.'

/-- The characters up to the first one that does not satisfy the condition, and what follows. -/
def spanChars (condition : Char → Bool) (source : Source) : List Char × Source :=
  ((source.takeWhile fun next => condition next.char).map Placed.char,
    source.dropWhile fun next => condition next.char)

/-- The source behind the blanks at its front. -/
def skipInlineBlanks (source : Source) : Source :=
  source.dropWhile fun next => isInlineBlank next.char

/-- The source from the end of the current line on. -/
def skipLine (source : Source) : Source :=
  source.dropWhile fun next => !isBreak next.char

/-- The source behind blanks and a comment, if only these stand before the end of the line; behind
that end, too. -/
def skipLineEnd? (source : Source) : Option Source :=
  let rest := skipInlineBlanks source
  let rest := if rest.head?.any fun next => next.char = '#' then skipLine rest else rest
  if atLineEnd rest then some rest.tail else none

end Source

end SearchCollection.Yaml
