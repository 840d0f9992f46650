import SearchCollection.Yaml.Node
import SearchCollection.Yaml.Scalar

/-! # From nodes to trees

`Node.tree?` gives a node its meaning: scalars are read by their style and tag, an
alias becomes a copy of the node it stands for, and a tag of the document's own
is kept. Two equal keys in one mapping are refused. So are more than `maxDepth`
collections inside each other, which an alias inside its own node would make, and
a document that uses aliases too often for its size.
-/

namespace SearchCollection.Yaml

/-- The number of collections that may stand inside each other. -/
def maxDepth : Nat := 128

namespace Node

mutual

/-- The number of places where a node begins or a collection ends. -/
def size : Node → Nat
  | .alias _ => 1
  | .scalar _ _ _ => 1
  | .sequence _ items => 2 + sizeItems items
  | .mapping _ entries => 2 + sizeEntries entries

def sizeItems : List Node → Nat
  | [] => 0
  | item :: rest => size item + sizeItems rest

def sizeEntries : List (Node × Node) → Nat
  | [] => 0
  | (key, value) :: rest => size key + size value + sizeEntries rest

end

/-- The nodes by the numbers of their anchors, in the order in which they begin. -/
abbrev Anchored := List (Nat × Node)

/-- A node under its anchor. -/
def anchoredSelf (properties : Properties) (node : Node) : Anchored :=
  match properties.anchor with
  | some anchor => [(anchor, node)]
  | none => []

mutual

/-- The nodes with anchors in a node. -/
def anchored : Node → Anchored
  | .alias _ => []
  | .scalar properties style content =>
      anchoredSelf properties (.scalar properties style content)
  | .sequence properties items =>
      anchoredSelf properties (.sequence properties items) ++ anchoredItems items
  | .mapping properties entries =>
      anchoredSelf properties (.mapping properties entries) ++ anchoredEntries entries

def anchoredItems : List Node → Anchored
  | [] => []
  | item :: rest => anchored item ++ anchoredItems rest

def anchoredEntries : List (Node × Node) → Anchored
  | [] => []
  | (key, value) :: rest => anchored key ++ anchored value ++ anchoredEntries rest

end

end Node

/-- The reading of one document: its nodes with anchors, and how many aliases may be followed. -/
structure Document where
  root : Node
  anchored : Node.Anchored
  maxFollowed : Nat

/-- A document with its root. -/
def Document.ofRoot (root : Node) : Document :=
  ⟨root, root.anchored, 100 * root.size⟩

/-- A step of reading: it may fail, and it counts the aliases that have been followed. -/
abbrev Reading := StateT Nat Option

namespace Document

/-- The node itself, or the one that it stands for. -/
def follow (document : Document) (node : Node) : Reading Node :=
  match node with
  | .alias anchor => do
      let followed ← get
      if document.maxFollowed ≤ followed then failure
      set (followed + 1)
      match document.anchored.reverse.lookup anchor with
      | some target => return target
      | none => failure
  | node => return node

/-- A tag of the document's own. -/
def ownTag? (properties : Properties) : Option String :=
  properties.tag.filter fun tag => tag.startsWith "!"

/-- The tree under its own tag, if it has one. -/
def underTag (properties : Properties) (tree : Yaml) : Yaml :=
  match ownTag? properties with
  | some tag => .tagged (if tag = "!" then tag else (tag.drop 1).toString) tree
  | none => tree

/-- The entries with one more, unless its key is there already. -/
def addEntry (read : Node → Reading Yaml) (sofar : List (Yaml × Yaml)) (entry : Node × Node) :
    Reading (List (Yaml × Yaml)) := do
  let key ← read entry.1
  if sofar.any fun earlier => earlier.1.equals key then failure
  return sofar ++ [(key, ← read entry.2)]

/-- The tree of a node, with so many collections still allowed inside each other. -/
def tree (document : Document) : Nat → Node → Reading Yaml
  | 0, node => do
      match ← document.follow node with
      | .scalar properties style content => readScalar properties style content
      | _ => failure
  | depth + 1, node => do
      match ← document.follow node with
      | .alias _ => failure
      | .scalar properties style content => readScalar properties style content
      | .sequence properties items => do
          return underTag properties (.sequence (← items.mapM (document.tree depth)))
      | .mapping properties entries => do
          let entries ← entries.foldlM (addEntry (document.tree depth)) []
          return underTag properties (.mapping entries)
where
  /-- The tree of a scalar. A tag of the document's own leaves the meaning as it is. -/
  readScalar (properties : Properties) (style : ScalarStyle) (content : String) : Reading Yaml :=
    match ownTag? properties with
    | some _ =>
        match ofScalar? none style content with
        | some tree => return underTag properties tree
        | none => failure
    | none =>
        match ofScalar? properties.tag style content with
        | some tree => return tree
        | none => failure

/-- The document that a text holds. -/
def ofString? (text : String) : Option Document := do
  let tokens ← Token.ofString? text
  let root ← Node.ofTokens? tokens
  return .ofRoot root

end Document

end SearchCollection.Yaml
