/-! # Folding of lines

A scalar that runs over several lines is folded: between two lines one line end
becomes a space, and of several the first is dropped. The blanks around the line
ends are dropped as well. `fold` does this for the pieces of a plain or quoted
scalar; `BlockLine.fold` does it for the lines of a block scalar, where a line
that begins with a blank keeps its line ends.
-/

namespace SearchCollection.Yaml

/-- A piece of a plain or quoted scalar. -/
inductive Piece where
  /-- A character that stands for itself. -/
  | solid (c : Char)
  | blank (c : Char)
  | lineEnd (c : Char)
  /-- A line end that is escaped: it joins its two lines. -/
  | joint

/-- What stands between two characters of a scalar. -/
inductive Gap where
  | blanks (cs : List Char)
  /-- The first line end, unless it was escaped, and the later ones. -/
  | lines (first : Option Char) (more : List Char)

namespace Gap

def none : Gap := .blanks []

/-- What a gap is written as. -/
def text : Gap → List Char
  | .blanks cs => cs
  | .lines (some '\n') [] => [' ']
  | .lines (some '\n') more => more
  | .lines first more => first.toList ++ more

/-- Whether a line ends in the gap. -/
def endsLine : Gap → Bool
  | .blanks _ => false
  | .lines _ _ => true

end Gap

/-- The characters of a scalar up to the last one that is no gap, and the gap behind it. -/
def fold : Gap → List Piece → List Char × Gap
  | gap, [] => ([], gap)
  | gap, .solid c :: rest =>
      let (content, last) := fold .none rest
      (gap.text ++ c :: content, last)
  | gap, .joint :: rest =>
      let (content, last) := fold (.lines none []) rest
      (gap.text ++ content, last)
  | .blanks cs, .blank c :: rest => fold (.blanks (cs ++ [c])) rest
  | .blanks _, .lineEnd c :: rest => fold (.lines (some c) []) rest
  | .lines first more, .blank _ :: rest => fold (.lines first more) rest
  | .lines first more, .lineEnd c :: rest => fold (.lines first (more ++ [c])) rest

/-- A line of a block scalar that is not blank. -/
structure BlockLine where
  content : List Char
  /-- How the line ends; only the last line of a text may do without. -/
  lineEnd : Option Char
  /-- The ends of the blank lines behind it. -/
  blankLines : List Char

/-- What happens to the last line ends of a block scalar. -/
inductive Chomping where
  | strip
  | clip
  | keep
deriving DecidableEq

namespace BlockLine

/-- Whether the line begins with a blank, which keeps it from being folded. -/
def isIndented (line : BlockLine) : Bool :=
  match line.content with
  | c :: _ => c = ' ' || c = '\t'
  | [] => false

/-- What stands between a line and the next one. -/
def joint (folded : Bool) (line next : BlockLine) : List Char :=
  if folded && line.lineEnd = some '\n' && !line.isIndented && !next.isIndented then
    if line.blankLines.isEmpty then [' '] else line.blankLines
  else line.lineEnd.toList ++ line.blankLines

/-- The text of the lines. -/
def fold (folded : Bool) (chomping : Chomping) : List BlockLine → List Char
  | [] => []
  | [line] =>
      line.content ++ match chomping with
        | .strip => []
        | .clip => line.lineEnd.toList
        | .keep => line.lineEnd.toList ++ line.blankLines
  | line :: next :: rest => line.content ++ line.joint folded next ++ fold folded chomping (next :: rest)

end BlockLine

end SearchCollection.Yaml
