import SearchCollection.Yaml.Source
import SearchCollection.Yaml.Folding
import SearchCollection.Yaml.Token.Basic
import SearchCollection.Number.Reading

/-! # Scalars in YAML text

What the four ways to write a scalar mean as text, and where each ends: a quoted
one at its closing quote, a plain one before a mark or at a lower column, and a
block at the first line that is indented less than its own lines.
-/

namespace SearchCollection.Yaml.Source

open Text (isInlineBlank)

/-! ## Quoted scalars -/

/-- The pieces up to a closing single quote. Two quotes stand for one. -/
def singleQuoted? : Source → Option (List Piece × Source)
  | [] => none
  | ⟨'\x27', _, _⟩ :: ⟨'\x27', _, _⟩ :: rest => do
      let (pieces, rest) ← singleQuoted? rest
      return (.solid '\x27' :: pieces, rest)
  | ⟨'\x27', _, _⟩ :: rest => some ([], rest)
  | next :: rest =>
      if isBreak next.char && atAnyBoundary rest then none
      else do
        let (pieces, rest) ← singleQuoted? rest
        let piece := if isBreak next.char then Piece.lineEnd next.char
          else if isInlineBlank next.char then .blank next.char
          else .solid next.char
        return (piece :: pieces, rest)

/-- The character that a backslash and one letter stand for. -/
def shortEscape? : Char → Option Char
  | '0' => some '\x00'
  | 'a' => some '\x07'
  | 'b' => some '\x08'
  | 't' => some '\t'
  | '\t' => some '\t'
  | 'n' => some '\n'
  | 'v' => some '\x0b'
  | 'f' => some '\x0c'
  | 'r' => some '\r'
  | 'e' => some '\x1b'
  | ' ' => some ' '
  | '"' => some '"'
  | '/' => some '/'
  | '\\' => some '\\'
  | 'N' => some '\u0085'
  | '_' => some '\u00a0'
  | 'L' => some '\u2028'
  | 'P' => some '\u2029'
  | _ => none

/-- The count of hexadecimal digits that follow a backslash and this letter. -/
def codeLength? : Char → Option Nat
  | 'x' => some 2
  | 'u' => some 4
  | 'U' => some 8
  | _ => none

/-- The character of a code, if there is one. -/
def charOfCode? (code : Nat) : Option Char :=
  if Nat.isValidChar code then some (.ofNat code) else none

/-- How far an escape sequence has been read. -/
inductive Escape where
  | outside
  /-- Behind the backslash. -/
  | begun
  /-- So many digits are still to come; the ones before have this value. -/
  | code (left value : Nat)

/-- The pieces up to a closing double quote. -/
def doubleQuoted? : Escape → Source → Option (List Piece × Source)
  | _, [] => none
  | .outside, next :: rest =>
      if next.char = '"' then some ([], rest)
      else if next.char = '\\' then doubleQuoted? .begun rest
      else if isBreak next.char && atAnyBoundary rest then none
      else do
        let (pieces, rest) ← doubleQuoted? .outside rest
        let piece := if isBreak next.char then Piece.lineEnd next.char
          else if isInlineBlank next.char then .blank next.char
          else .solid next.char
        return (piece :: pieces, rest)
  | .begun, next :: rest =>
      if isBreak next.char then
        if atAnyBoundary rest then none
        else do
          let (pieces, rest) ← doubleQuoted? .outside rest
          return (.joint :: pieces, rest)
      else match codeLength? next.char, shortEscape? next.char with
        | some length, _ => doubleQuoted? (.code length 0) rest
        | none, some c => do
            let (pieces, rest) ← doubleQuoted? .outside rest
            return (.solid c :: pieces, rest)
        | none, none => none
  | .code left sofar, next :: rest =>
      match hexDigit? next.char with
      | none => none
      | some digit =>
          let code := sofar * 16 + digit
          if 1 < left then doubleQuoted? (.code (left - 1) code) rest
          else do
            let c ← charOfCode? code
            let (pieces, rest) ← doubleQuoted? .outside rest
            return (.solid c :: pieces, rest)

/-- The text of the pieces between two quotes. -/
def quotedText (pieces : List Piece) : String :=
  let (content, last) := fold .none pieces
  .ofList (content ++ last.text)

/-! ## Plain scalars -/

/-- Whether a character is one of the marks of sequences and mappings in brackets. -/
def isFlowMark (c : Char) : Bool :=
  c = ',' || c = '[' || c = ']' || c = '\x7b' || c = '\x7d'

/-- The pieces of a plain scalar. Inside brackets (`inFlow`) it ends before a mark too; outside
it ends at the first line that begins before `minColumn`. A hash and a document boundary end it
behind a gap (`afterGap`); a tab may not stand in for indentation (`newLine`). -/
def plain? (inFlow : Bool) (minColumn : Nat) (afterGap newLine : Bool) :
    Source → Option (List Piece × Source)
  | [] => some ([], [])
  | next :: rest =>
      if isBreak next.char then do
        let (pieces, rest) ← plain? inFlow minColumn true true rest
        return (.lineEnd next.char :: pieces, rest)
      else if isInlineBlank next.char then
        if newLine && next.column < minColumn && next.char = '\t' then none
        else do
          let (pieces, rest) ← plain? inFlow minColumn true newLine rest
          return (.blank next.char :: pieces, rest)
      else if afterGap && (!inFlow && next.column < minColumn || next.char = '#' ||
          atAnyBoundary (next :: rest)) then
        some ([], next :: rest)
      else if inFlow && next.char = ':' &&
          rest.head?.any fun after => isFlowMark after.char || after.char = '?' then
        none
      else if next.char = ':' && atGap rest || inFlow && isFlowMark next.char then
        some ([], next :: rest)
      else do
        let (pieces, rest) ← plain? inFlow minColumn false false rest
        return (.solid next.char :: pieces, rest)

/-! ## Block scalars -/

/-- The last indicator of the header: how to chomp. -/
def chomping : Source → Chomping × Source
  | [] => (.clip, [])
  | next :: rest =>
      if next.char = '+' then (.keep, rest)
      else if next.char = '-' then (.strip, rest)
      else (.clip, next :: rest)

/-- The indicator of the header that gives the indentation, if there is one; it is not zero. -/
def indentation? : Source → Option (Option Nat × Source)
  | [] => some (none, [])
  | next :: rest =>
      if next.char = '0' then none
      else if next.char.isDigit then some (some (digitsValue [next.char]), rest)
      else some (none, next :: rest)

/-- The header of a block scalar up to the end of its line; the two indicators come in any
order. -/
def blockHeader? (source : Source) : Option (Chomping × Option Nat × Source) := do
  let (first, rest) := chomping source
  let (indentation, rest) ← indentation? rest
  let (second, rest) := if first = .clip then chomping rest else (first, rest)
  let rest ← skipLineEnd? rest
  return (second, indentation, rest)

/-- The ends of the blank lines at the front, the widest indentation among these lines and the
next one, and what follows the indentation of the next one. Where the indentation is known, blanks
behind it are content already; a tab may not stand before that. -/
def blankLines? (known : Option Nat) (widest : Nat) :
    Source → Option (List Char × Nat × Source)
  | [] => some ([], widest, [])
  | next :: rest =>
      let before := known.all fun indentation => next.column < indentation
      if isBreak next.char then do
        let (ends, widest, rest) ← blankLines? known widest rest
        return (next.char :: ends, widest, rest)
      else if before && next.char = ' ' then blankLines? known (max widest (next.column + 1)) rest
      else if before && next.char = '\t' then none
      else some ([], widest, next :: rest)

/-- The lines of a block scalar with the given indentation, and what follows them. -/
def blockLines? (indentation : Nat) (source : Source) : Option (List BlockLine × Source) :=
  match source with
  | [] => some ([], [])
  | next :: after =>
      if next.column ≠ indentation then some ([], next :: after)
      else
        let content := (next :: after).takeWhile fun c => !isBreak c.char
        let behind := skipLine (next :: after)
        let lineEnd := behind.head?.map Placed.char
        match blankLines? (some indentation) 0 behind.tail with
        | none => none
        | some (blankLines, _, rest) =>
            if rest.length < (next :: after).length then do
              let (lines, rest) ← blockLines? indentation rest
              return (⟨content.map Placed.char, lineEnd, blankLines⟩ :: lines, rest)
            else none
termination_by source.length
decreasing_by assumption

/-- The text of a block scalar behind its first mark. Its lines are indented by as much as the
header says beyond the block around it (`outer`), or else as the first line that is not blank. -/
def blockScalar? (folded : Bool) (outer : Option Nat) (source : Source) :
    Option (String × Source) := do
  let (chomping, indicated, rest) ← blockHeader? source
  let known := indicated.map (outer.getD 0 + ·)
  let (blankLines, widest, rest) ← blankLines? known 0 rest
  let least := match outer with
    | some column => column + 1
    | none => 1
  let (lines, rest) ← blockLines? (known.getD (max widest least)) rest
  let content := BlockLine.fold folded chomping lines
  let first := if lines.isEmpty && chomping ≠ .keep then [] else blankLines
  return (.ofList (first ++ content), rest)

end SearchCollection.Yaml.Source
