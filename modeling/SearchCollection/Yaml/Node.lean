import SearchCollection.Yaml.Token.Layout

/-! # Nodes of a YAML document

A document as it is written: scalars with their style, sequences, mappings, and
aliases, which stand for the node that bears their anchor. `Node.ofTokens?`
builds it from the tokens. Between two tokens stand the collections that are
still open (`Frame`) and what may come next (`Expected`). A node that is left out
is an empty plain scalar. A text holds one document.
-/

namespace SearchCollection.Yaml

/-- What is written before a node. Anchors are numbered. -/
structure Properties where
  anchor : Option Nat := none
  tag : Option String := none

namespace Properties

def isEmpty (properties : Properties) : Bool :=
  properties.anchor.isNone && properties.tag.isNone

end Properties

/-- A node of a document. -/
inductive Node where
  | alias (anchor : Nat)
  | scalar (properties : Properties) (style : ScalarStyle) (content : String)
  | sequence (properties : Properties) (items : List Node)
  | mapping (properties : Properties) (entries : List (Node × Node))

namespace Node

/-- A node that is left out. -/
def empty (properties : Properties) : Node :=
  .scalar properties .plain ""

/-- A scalar. The tag that is one exclamation mark says no more than no tag. -/
def ofScalar (properties : Properties) (style : ScalarStyle) (content : String) : Node :=
  .scalar { properties with tag := properties.tag.filter (· ≠ "!") } style content

/-- A collection that is still open, with what it holds so far from the last to the first. -/
inductive Frame where
  /-- Items behind dashes. -/
  | items (properties : Properties) (before : List Node)
  /-- Items behind dashes at the column of the key whose value they are. -/
  | flushItems (properties : Properties) (before : List Node)
  /-- A mapping that waits for a key. -/
  | key (properties : Properties) (before : List (Node × Node))
  /-- A mapping that waits for the value of a key. -/
  | value (properties : Properties) (before : List (Node × Node)) (key : Node)
  /-- Items between square brackets. -/
  | flowItems (properties : Properties) (before : List Node)
  /-- An item between square brackets that is a mapping of one entry. -/
  | pairKey
  | pairValue (key : Node)
  /-- A mapping in braces that waits for a key. -/
  | flowKey (properties : Properties) (before : List (Node × Node))
  /-- A mapping in braces that waits for a key without a value. -/
  | loneKey (properties : Properties) (before : List (Node × Node))
  | flowValue (properties : Properties) (before : List (Node × Node)) (key : Node)

/-- What may come next. -/
inductive Expected where
  /-- A node, or more of its properties. -/
  | node (properties : Properties)
  /-- An entry of the innermost collection, or its end. -/
  | entry
  /-- What follows a node that has ended. -/
  | after (node : Node)

/-- What each tag handle stands for. -/
abbrev TagHandles := List (String × String)

/-- The handles that stand for something in every document. -/
def defaultHandles : TagHandles :=
  [("!", "!"), ("!!", "tag:yaml.org,2002:")]

/-- The whole text of a tag. -/
def tagText? (handles : TagHandles) (handle suffix : String) : Option String :=
  if handle.isEmpty then some suffix else (handles.lookup handle).map (· ++ suffix)

/-- Whether blocks may begin in the innermost collection. -/
def allowsBlock : List Frame → Bool
  | [] => true
  | .items _ _ :: _ | .flushItems _ _ :: _ | .key _ _ :: _ | .value _ _ _ :: _ => true
  | _ => false

/-- Whether a dash begins a sequence at the column of its key. -/
def allowsFlushItems : List Frame → Bool
  | .key _ _ :: _ | .value _ _ _ :: _ => true
  | _ => false

/-- Whether the token shows that the node before it has been left out. -/
def leavesOut : List Frame → Token → Bool
  | [], .documentEnd => true
  | .items _ _ :: _, .item | .items _ _ :: _, .blockEnd => true
  | .flushItems _ _ :: _, .item | .flushItems _ _ :: _, .blockEnd => true
  | .flushItems _ _ :: _, .key | .flushItems _ _ :: _, .value => true
  | .key _ _ :: _, .key | .key _ _ :: _, .value | .key _ _ :: _, .blockEnd => true
  | .value _ _ _ :: _, .key | .value _ _ _ :: _, .value | .value _ _ _ :: _, .blockEnd => true
  | .pairValue _ :: _, .comma | .pairValue _ :: _, .closeSequence => true
  | .flowKey _ _ :: _, .value | .flowKey _ _ :: _, .comma => true
  | .flowKey _ _ :: _, .closeMapping => true
  | .flowValue _ _ _ :: _, .comma | .flowValue _ _ _ :: _, .closeMapping => true
  | _, _ => false

/-- Whether the token shows that the key of a pair has been left out; it is used up by that. -/
def leavesOutPairKey : List Frame → Token → Bool
  | .pairKey :: _, .value | .pairKey :: _, .comma | .pairKey :: _, .closeSequence => true
  | _, _ => false

/-- How far the tokens have been read. -/
structure Progress where
  handles : TagHandles
  /-- The names of the anchors with their numbers, the latest first. -/
  anchors : List (String × Nat) := []
  /-- The open collections, the innermost first. -/
  frames : List Frame := []
  expected : Expected := .node {}

namespace Progress

/-- With other open collections and another expectation. -/
def moveTo (progress : Progress) (frames : List Frame) (expected : Expected) : Progress :=
  { progress with frames := frames, expected := expected }

/-- The number of an anchor that is set now: how many different names have been set. A name that
is set again may thus share its new number with a later name; an alias of that number stands for
the last node that bears it. -/
def nextAnchor (progress : Progress) : Nat :=
  (progress.anchors.map Prod.fst).eraseDups.length

/-- A block mapping has these entries, from the last to the first; this token follows. -/
def nextEntry? (progress : Progress) (properties : Properties) (entries : List (Node × Node))
    (outer : List Frame) : Token → Option Progress
  | .key => some (progress.moveTo (.key properties entries :: outer) (.node {}))
  | .blockEnd => some (progress.moveTo outer (.after (.mapping properties entries.reverse)))
  | _ => none

/-- A mapping in braces has these entries, from the last to the first; this token follows. -/
def nextFlowEntry? (progress : Progress) (properties : Properties)
    (entries : List (Node × Node)) (outer : List Frame) : Token → Option Progress
  | .comma => some (progress.moveTo (.flowKey properties entries :: outer) .entry)
  | .closeMapping => some (progress.moveTo outer (.after (.mapping properties entries.reverse)))
  | _ => none

/-- A node has ended inside the given collections, and this token follows it. -/
def endNode? (progress : Progress) (node : Node) : List Frame → Token → Option Progress
  | [], .documentEnd => some (progress.moveTo [] (.after node))
  | [], _ => none
  | .items properties before :: outer, .item =>
      some (progress.moveTo (.items properties (node :: before) :: outer) (.node {}))
  | .items properties before :: outer, .blockEnd =>
      some (progress.moveTo outer (.after (.sequence properties (node :: before).reverse)))
  | .items _ _ :: _, _ => none
  | .flushItems properties before :: outer, .item =>
      some (progress.moveTo (.flushItems properties (node :: before) :: outer) (.node {}))
  | .flushItems properties before :: outer, token =>
      progress.endNode? (.sequence properties (node :: before).reverse) outer token
  | .key properties before :: outer, .value =>
      some (progress.moveTo (.value properties before node :: outer) (.node {}))
  | .key properties before :: outer, token =>
      progress.nextEntry? properties ((node, empty {}) :: before) outer token
  | .value properties before key :: outer, token =>
      progress.nextEntry? properties ((key, node) :: before) outer token
  | .flowItems properties before :: outer, .comma =>
      some (progress.moveTo (.flowItems properties (node :: before) :: outer) .entry)
  | .flowItems properties before :: outer, .closeSequence =>
      some (progress.moveTo outer (.after (.sequence properties (node :: before).reverse)))
  | .flowItems _ _ :: _, _ => none
  | .pairKey :: outer, .value => some (progress.moveTo (.pairValue node :: outer) (.node {}))
  | .pairKey :: outer, token => progress.endNode? (.mapping {} [(node, empty {})]) outer token
  | .pairValue key :: outer, token => progress.endNode? (.mapping {} [(key, node)]) outer token
  | .flowKey properties before :: outer, .value =>
      some (progress.moveTo (.flowValue properties before node :: outer) (.node {}))
  | .flowKey properties before :: outer, token =>
      progress.nextFlowEntry? properties ((node, empty {}) :: before) outer token
  | .loneKey properties before :: outer, token =>
      progress.nextFlowEntry? properties ((node, empty {}) :: before) outer token
  | .flowValue properties before key :: outer, token =>
      progress.nextFlowEntry? properties ((key, node) :: before) outer token

/-- No node begins with this token: the node before it must have been left out. -/
def leaveOutNode? (progress : Progress) (properties : Properties) (frames : List Frame)
    (token : Token) : Option Progress :=
  if !properties.isEmpty then progress.endNode? (empty properties) frames token
  else if leavesOutPairKey frames token then some (progress.moveTo frames (.after (empty {})))
  else if leavesOut frames token then progress.endNode? (empty {}) frames token
  else none

/-- A node inside the given collections begins with this token, or has been left out before it. -/
def beginNode? (progress : Progress) (properties : Properties) (frames : List Frame)
    (token : Token) : Option Progress :=
  let blocked := progress.leaveOutNode? properties frames token
  match token with
  | .anchor name =>
      if properties.anchor.isSome then blocked
      else
        let number := progress.nextAnchor
        some { progress.moveTo frames (.node { properties with anchor := some number }) with
          anchors := (name, number) :: progress.anchors }
  | .tag handle suffix =>
      if properties.tag.isSome then blocked
      else (tagText? progress.handles handle suffix).map fun text =>
        progress.moveTo frames (.node { properties with tag := some text })
  | .alias name =>
      if !properties.isEmpty then blocked
      else (progress.anchors.lookup name).map fun number =>
        progress.moveTo frames (.after (.alias number))
  | .scalar style content =>
      some (progress.moveTo frames (.after (ofScalar properties style content)))
  | .openSequence => some (progress.moveTo (.flowItems properties [] :: frames) .entry)
  | .openMapping => some (progress.moveTo (.flowKey properties [] :: frames) .entry)
  | .blockSequence =>
      if allowsBlock frames then some (progress.moveTo (.items properties [] :: frames) .entry)
      else blocked
  | .blockMapping =>
      if allowsBlock frames then some (progress.moveTo (.key properties [] :: frames) .entry)
      else blocked
  | .item =>
      if allowsFlushItems frames then
        some (progress.moveTo (.flushItems properties [] :: frames) (.node {}))
      else blocked
  | _ => blocked

/-- An entry of the innermost collection begins with this token, or the collection ends. -/
def beginEntry? (progress : Progress) : List Frame → Token → Option Progress
  | .items properties before :: outer, .item =>
      some (progress.moveTo (.items properties before :: outer) (.node {}))
  | .key properties before :: outer, token => progress.nextEntry? properties before outer token
  | .flowItems properties before :: outer, .closeSequence =>
      some (progress.moveTo outer (.after (.sequence properties before.reverse)))
  | .flowItems properties before :: outer, .key =>
      some (progress.moveTo (.pairKey :: .flowItems properties before :: outer) (.node {}))
  | .flowItems properties before :: outer, token =>
      progress.beginNode? {} (.flowItems properties before :: outer) token
  | .flowKey properties before :: outer, .closeMapping =>
      some (progress.moveTo outer (.after (.mapping properties before.reverse)))
  | .flowKey properties before :: outer, .key =>
      some (progress.moveTo (.flowKey properties before :: outer) (.node {}))
  | .flowKey properties before :: outer, token =>
      progress.beginNode? {} (.loneKey properties before :: outer) token
  | _, _ => none

/-- One token further. -/
def step? (progress : Progress) (token : Token) : Option Progress :=
  match progress.expected with
  | .node properties => progress.beginNode? properties progress.frames token
  | .entry => progress.beginEntry? progress.frames token
  | .after node => progress.endNode? node progress.frames token

/-- The node of the document, when all collections have ended. -/
def finish? (progress : Progress) : Option Node :=
  match progress.frames, progress.expected with
  | [], .after node => some node
  | [], .node properties => some (empty properties)
  | _, _ => none

end Progress

/-- The directives before a document: at most one version, which must be known, and no handle
twice. What follows is the document, which has a mark at its start if there are directives. -/
def readDirectives? (versioned : Bool) (handles : TagHandles) :
    List Token → Option (TagHandles × List Token)
  | .version major minor :: rest =>
      if versioned || major ≠ 1 || minor ≠ 1 && minor ≠ 2 then none
      else readDirectives? true handles rest
  | .tagHandle handle replacement :: rest =>
      if (handles.lookup handle).isSome then none
      else readDirectives? versioned ((handle, replacement) :: handles) rest
  | .documentStart :: rest => some (handles ++ defaultHandles, rest)
  | rest => if versioned || !handles.isEmpty then none else some (defaultHandles, rest)

/-- The node of the document that the tokens hold. -/
def ofTokens? (tokens : List Token) : Option Node := do
  let (handles, rest) ← readDirectives? false [] tokens
  let progress ← rest.foldlM Progress.step? { handles := handles }
  progress.finish?

end Node

end SearchCollection.Yaml
