import SearchCollection.Files.Host
import SearchCollection.Keyed

/-! # Trees of files

A `FileTree` is a value that holds files and folders and knows the current
folder, from which relative paths start. There are no links, so two points lead
back to the folder through which the path came. Each operation of `FileHost` is a
function on trees.
-/

namespace SearchCollection

/-- A file or a folder. -/
inductive FileNode where
  | file (bytes : ByteArray)
  | folder (members : List (String × FileNode))

namespace FileNode

def kind : FileNode → PathKind
  | .file _ => .file
  | .folder _ => .folder

/-- The node at the end of names that lead from folder to folder. The folders on the way, the
innermost first, are where two points lead back to. -/
def walk (outer : List FileNode) (here : FileNode) : List String → Except FileFault FileNode
  | [] => .ok here
  | name :: rest =>
      match here with
      | .file _ => .error .notADirectory
      | .folder members =>
          if name = "." then walk outer here rest
          else if name = ".." then
            match outer with
            | [] => walk [] here rest
            | around :: outer => walk outer around rest
          else match Entries.get? name members with
            | none => .error .notFound
            | some child => walk (here :: outer) child rest

/-- The node with another one at the end of plain names. Folders that are missing are made. -/
def put (node : FileNode) : List String → FileNode → FileNode
  | [], _ => node
  | _ :: _, .file bytes => .file bytes
  | name :: rest, .folder members =>
      let child := (Entries.get? name members).getD (.folder [])
      .folder (Entries.insert name (put node rest child) members)

end FileNode

/-- Files and folders, with a current folder. -/
structure FileTree where
  root : FileNode := .folder []
  /-- The plain names that lead from the root to the current folder. -/
  current : List String := []

namespace FileTree

/-- The names that lead from the root to a path. -/
def namesTo (tree : FileTree) (path : Path) : List String :=
  if path.isAbsolute then path.names else tree.current ++ path.names

/-- The names without points: two points take the name before them away. -/
def plainNames (names : List String) : List String :=
  names.foldl (fun sofar name =>
    if name = "." then sofar else if name = ".." then sofar.dropLast else sofar ++ [name]) []

/-- What stands at the end of names. -/
def nodeAt (tree : FileTree) (names : List String) : Except FileFault FileNode :=
  tree.root.walk [] names

/-- What stands at a path. The empty path names nothing. -/
def node (tree : FileTree) (path : Path) : Except FileFault FileNode :=
  if path = "" then .error .notFound else tree.nodeAt (tree.namesTo path)

/-- The tree with a node at the end of plain names. -/
def put (tree : FileTree) (names : List String) (node : FileNode) : FileTree :=
  { tree with root := FileNode.put node names tree.root }

def kind? (tree : FileTree) (path : Path) : Option PathKind :=
  match tree.node path with
  | .ok node => some node.kind
  | .error _ => none

/-- The bytes of a file. -/
def readBytes (tree : FileTree) (path : Path) : Except FileFault ByteArray :=
  match tree.node path with
  | .ok (.file bytes) => .ok bytes
  | .ok (.folder _) => .error .isADirectory
  | .error fault => .error fault

def readText (tree : FileTree) (path : Path) : Except FileFault String :=
  match tree.readBytes path with
  | .ok bytes =>
      match String.fromUTF8? bytes with
      | some text => .ok text
      | none => .error .notText
  | .error fault => .error fault

def list (tree : FileTree) (path : Path) : Except FileFault (List String) :=
  match tree.node path with
  | .ok (.folder members) => .ok (members.map Prod.fst)
  | .ok (.file _) => .error .notADirectory
  | .error fault => .error fault

/-- Makes the folders along the names, from the one at the end of the names before. -/
def makeFoldersFrom (tree : FileTree) (before : List String) :
    List String → Except FileFault FileTree
  | [] => .ok tree
  | name :: rest =>
      let names := plainNames (before ++ [name])
      match tree.nodeAt names with
      | .ok (.folder _) => makeFoldersFrom tree names rest
      | .ok (.file _) => .error (if rest.isEmpty then .exists else .notADirectory)
      | .error .notFound => makeFoldersFrom (tree.put names (.folder [])) names rest
      | .error fault => .error fault

def makeFolders (tree : FileTree) (path : Path) : Except FileFault FileTree :=
  makeFoldersFrom tree (if path.isAbsolute then [] else tree.current) path.names

/-- The plain names of a file that may be written, whether it is there already or only the folder
that is to hold it. -/
def writableNames (tree : FileTree) (path : Path) : Except FileFault (List String) :=
  let names := tree.namesTo path
  match tree.node path with
  | .ok (.file _) => .ok (plainNames names)
  | .ok (.folder _) => .error .isADirectory
  | .error fault =>
      match path.names.getLast? with
      | none => .error fault
      | some last =>
          match tree.nodeAt names.dropLast with
          | .ok (.folder _) => if last = "." then .error .isADirectory else .ok (plainNames names)
          | .ok (.file _) => .error .notADirectory
          | .error fault => .error fault

def writeBytes (tree : FileTree) (path : Path) (bytes : ByteArray) : Except FileFault FileTree :=
  (tree.writableNames path).map fun names => tree.put names (.file bytes)

def write (tree : FileTree) (path : Path) (text : String) : Except FileFault FileTree :=
  tree.writeBytes path text.toUTF8

def append (tree : FileTree) (path : Path) (text : String) : Except FileFault FileTree :=
  let before := match tree.readBytes path with
    | .ok bytes => bytes
    | .error _ => .empty
  tree.writeBytes path (before ++ text.toUTF8)

/-- A change of the tree as a step of a program; a fault leaves the tree as it was. -/
def step (change : FileTree → Except FileFault FileTree) :
    StateM FileTree (Except FileFault Unit) :=
  fun tree =>
    match change tree with
    | .ok next => (.ok (), next)
    | .error fault => (.error fault, tree)

instance : FileHost (StateM FileTree) where
  kind? path := fun tree => (tree.kind? path, tree)
  readText path := fun tree => (tree.readText path, tree)
  list path := fun tree => (tree.list path, tree)
  makeFolders path := step fun tree => tree.makeFolders path
  write path text := step fun tree => tree.write path text
  append path text := step fun tree => tree.append path text

end FileTree

end SearchCollection
