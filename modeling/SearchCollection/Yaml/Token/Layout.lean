import SearchCollection.Yaml.Token.Scalar
import SearchCollection.Yaml.Token.Name

/-! # Indentation and keys

`Token.ofString?` gives the tokens of a YAML text. Marks and scalars are read one
after the other; besides, the columns of the open blocks are kept, and what
begins where a key may begin is remembered (`PossibleKey`). When a colon follows
on the same line, the start of the key, and of its mapping if that is new, is put
before the tokens that turned out to be the key. What begins at the column of its
block has to be a key (`required`).
-/

namespace SearchCollection.Yaml

/-- A place where a key may have begun. -/
structure PossibleKey where
  line : Nat
  column : Nat
  /-- How many tokens stand before it. -/
  before : Nat
  required : Bool

/-- The number of columns that a key may take up to its colon. -/
def maxKeyWidth : Nat := 1024

/-- How far a text has been cut into tokens. -/
structure Layout where
  source : Source
  /-- The tokens so far, from the last to the first. -/
  tokens : List Token := []
  /-- The columns of the open blocks, from the innermost out. -/
  blocks : List Nat := []
  /-- The latest place where a key may have begun, on the current level of brackets. -/
  possibleKey : Option PossibleKey := none
  /-- The same of the levels around, from the innermost out: one for each open bracket. -/
  outerKeys : List (Option PossibleKey) := []
  /-- Whether a key may begin here. -/
  keyAllowed : Bool := true

namespace Layout

def inFlow (layout : Layout) : Bool :=
  !layout.outerKeys.isEmpty

/-- The layout with one more token, and with the source behind it. -/
def emit (layout : Layout) (token : Token) (rest : Source) : Layout :=
  { layout with tokens := token :: layout.tokens, source := rest }

/-- Gives up the possible key; one that is required cannot be given up. -/
def forgetKey? (layout : Layout) : Option Layout :=
  if layout.possibleKey.any PossibleKey.required then none
  else some { layout with possibleKey := none }

/-- Gives up the possible key if the next character is too far from it. -/
def expireKey? (layout : Layout) (next : Placed) : Option Layout :=
  match layout.possibleKey with
  | some key =>
      if key.line < next.line || key.column + maxKeyWidth < next.column then layout.forgetKey?
      else some layout
  | none => some layout

/-- Remembers that a key may begin with the next character. -/
def rememberKey? (layout : Layout) (next : Placed) : Option Layout :=
  if layout.keyAllowed then do
    let layout ← layout.forgetKey?
    return { layout with possibleKey := some {
      line := next.line
      column := next.column
      before := layout.tokens.length
      required := !layout.inFlow && layout.blocks.head? = some next.column } }
  else some layout

/-- Closes the blocks whose columns satisfy the condition, up to the first that does not. -/
def closeBlocks (layout : Layout) (closes : Nat → Bool) : Layout :=
  if layout.inFlow then layout
  else { layout with
    tokens := (layout.blocks.takeWhile closes).map (fun _ => .blockEnd) ++ layout.tokens
    blocks := layout.blocks.dropWhile closes }

/-- Opens a block at a column where none is open yet; its first token is put behind the first
`before` tokens. -/
def openBlock (layout : Layout) (column before : Nat) (token : Token) : Layout :=
  if layout.inFlow || layout.blocks.head?.any fun open_ => column ≤ open_ then layout
  else
    let later := layout.tokens.length - before
    { layout with
      tokens := layout.tokens.take later ++ token :: layout.tokens.drop later
      blocks := column :: layout.blocks }

/-- Puts the start of a key behind the first `before` tokens. -/
def insertKey (layout : Layout) (before : Nat) : Layout :=
  let later := layout.tokens.length - before
  { layout with tokens := layout.tokens.take later ++ .key :: layout.tokens.drop later }

/-- A bracket opens. -/
def openBracket? (layout : Layout) (next : Placed) (token : Token) (rest : Source) :
    Option Layout := do
  let layout ← layout.rememberKey? next
  return { layout.emit token rest with
    possibleKey := none
    outerKeys := layout.possibleKey :: layout.outerKeys
    keyAllowed := true }

/-- A bracket closes. -/
def closeBracket? (layout : Layout) (token : Token) (rest : Source) : Option Layout := do
  let layout ← layout.forgetKey?
  let layout := { layout.emit token rest with keyAllowed := false }
  match layout.outerKeys with
  | key :: outer => return { layout with possibleKey := key, outerKeys := outer }
  | [] => return layout

/-- A comma. -/
def comma? (layout : Layout) (rest : Source) : Option Layout := do
  let layout ← layout.forgetKey?
  return { layout.emit .comma rest with keyAllowed := true }

/-- A dash that begins an item of a block. -/
def item? (layout : Layout) (next : Placed) (rest : Source) : Option Layout := do
  if !layout.inFlow && !layout.keyAllowed then none
  let layout := layout.openBlock next.column layout.tokens.length .blockSequence
  let layout ← layout.forgetKey?
  return { layout.emit .item rest with keyAllowed := true }

/-- A question mark that begins a key. -/
def key? (layout : Layout) (next : Placed) (rest : Source) : Option Layout := do
  if !layout.inFlow && !layout.keyAllowed then none
  let layout := layout.openBlock next.column layout.tokens.length .blockMapping
  let layout ← layout.forgetKey?
  return { layout.emit .key rest with keyAllowed := !layout.inFlow }

/-- A colon that begins the value of a key. -/
def value? (layout : Layout) (next : Placed) (rest : Source) : Option Layout :=
  match layout.possibleKey with
  | some key =>
      let layout := (layout.insertKey key.before).openBlock key.column key.before .blockMapping
      some { layout.emit .value rest with possibleKey := none, keyAllowed := false }
  | none =>
      if !layout.inFlow && !layout.keyAllowed then none
      else
        let layout := layout.openBlock next.column layout.tokens.length .blockMapping
        some { layout.emit .value rest with keyAllowed := !layout.inFlow }

/-- A property or a scalar with which a key may begin. -/
def keyPart? (layout : Layout) (next : Placed) (read : Option (Token × Source)) :
    Option Layout := do
  let layout ← layout.rememberKey? next
  let (token, rest) ← read
  return { layout.emit token rest with keyAllowed := false }

/-- A quoted scalar. -/
def quoted? (layout : Layout) (next : Placed) (read : Option (List Piece × Source)) :
    Option Layout :=
  layout.keyPart? next (read.map fun (pieces, rest) =>
    (.scalar .quoted (Source.quotedText pieces), rest))

/-- A plain scalar. Behind one that ends with its line a key may begin. -/
def plain? (layout : Layout) (next : Placed) (source : Source) : Option Layout := do
  let layout ← layout.rememberKey? next
  let minColumn := match layout.blocks with
    | column :: _ => column + 1
    | [] => 0
  let (pieces, rest) ← Source.plain? layout.inFlow minColumn false false source
  let (content, last) := fold .none pieces
  return { layout.emit (.scalar .plain (.ofList content)) rest with keyAllowed := last.endsLine }

/-- A block scalar. -/
def blockScalar? (layout : Layout) (style : ScalarStyle) (rest : Source) : Option Layout := do
  let layout ← layout.forgetKey?
  let (content, rest) ← Source.blockScalar? (style = .folded) layout.blocks.head? rest
  return { layout.emit (.scalar style content) rest with keyAllowed := true }

/-- The start or the end of a document, or a directive: all blocks end before it. -/
def boundary? (layout : Layout) (read : Option (Token × Source)) : Option Layout := do
  let layout ← (layout.closeBlocks fun _ => true).forgetKey?
  let (token, rest) ← read
  return { layout.emit token rest with keyAllowed := false }

/-- Whether a plain scalar may begin with the next character. -/
def beginsPlain (layout : Layout) (next : Placed) (rest : Source) : Bool :=
  if next.char = '-' then !rest.head?.any fun after => Text.isInlineBlank after.char
  else if next.char = '?' || next.char = ':' then !layout.inFlow && !rest.atGap
  else !(Source.atGap [next] || ",[]\x7b\x7d#&*!|>\x27\"%@`".contains next.char)

/-- The next token; no blank stands before it. -/
def token? (layout : Layout) (next : Placed) (rest : Source) : Option Layout :=
  let source := next :: rest
  let c := next.char
  if next.column = 0 && c = '%' then layout.boundary? (Source.directive? rest)
  else if Source.atBoundary '-' source then
    layout.boundary? (some (.documentStart, source.drop 3))
  else if Source.atBoundary '.' source then layout.boundary? (some (.documentEnd, source.drop 3))
  else if c = '[' then layout.openBracket? next .openSequence rest
  else if c = '\x7b' then layout.openBracket? next .openMapping rest
  else if c = ']' then layout.closeBracket? .closeSequence rest
  else if c = '\x7d' then layout.closeBracket? .closeMapping rest
  else if c = ',' then layout.comma? rest
  else if c = '-' && Source.atGap rest then layout.item? next rest
  else if c = '?' && (layout.inFlow || Source.atGap rest) then layout.key? next rest
  else if c = ':' && (layout.inFlow || Source.atGap rest) then layout.value? next rest
  else if c = '*' then
    layout.keyPart? next ((Source.anchorName? rest).map fun (name, rest) => (.alias name, rest))
  else if c = '&' then
    layout.keyPart? next ((Source.anchorName? rest).map fun (name, rest) => (.anchor name, rest))
  else if c = '!' then layout.keyPart? next (Source.tag? layout.inFlow rest)
  else if c = '|' && !layout.inFlow then layout.blockScalar? .literal rest
  else if c = '>' && !layout.inFlow then layout.blockScalar? .folded rest
  else if c = '\x27' then layout.quoted? next (Source.singleQuoted? rest)
  else if c = '"' then layout.quoted? next (Source.doubleQuoted? .outside rest)
  else if layout.beginsPlain next rest then layout.plain? next source
  else none

/-- The source from the next token on, behind blanks, comments and line ends, and whether a key
may begin there. A tab counts as a blank only where no key may begin, and between brackets. -/
def skipBlanks (inFlow keyAllowed inComment : Bool) : Source → Source × Bool
  | [] => ([], keyAllowed)
  | next :: rest =>
      if isBreak next.char then skipBlanks inFlow (keyAllowed || !inFlow) false rest
      else if inComment || next.char = '#' then skipBlanks inFlow keyAllowed true rest
      else if next.char = ' ' || next.char = '\t' && (inFlow || !keyAllowed) then
        skipBlanks inFlow keyAllowed false rest
      else (next :: rest, keyAllowed)

/-- The tokens from the first to the last, when the text has ended. -/
def finish? (layout : Layout) : Option (List Token) := do
  let layout ← (layout.closeBlocks fun _ => true).forgetKey?
  return layout.tokens.reverse

/-- All tokens of the text. -/
def run? (layout : Layout) : Option (List Token) :=
  match skipBlanks layout.inFlow layout.keyAllowed false layout.source with
  | ([], _) => layout.finish?
  | (next :: rest, keyAllowed) =>
      let here := { layout with keyAllowed := keyAllowed }
      match here.expireKey? next with
      | none => none
      | some here =>
          match (here.closeBlocks fun column => next.column < column).token? next rest with
          | none => none
          | some further =>
              if further.source.length < layout.source.length then further.run? else none
termination_by layout.source.length

end Layout

/-- The tokens of a text, if it is cut into tokens everywhere. -/
def Token.ofString? (text : String) : Option (List Token) := do
  let source ← Source.ofString? text
  ({ source := source } : Layout).run?

end SearchCollection.Yaml
