import SearchCollection.DeclarationFile.Basic
import SearchCollection.Yaml.Reader
import SearchCollection.Fault

/-! # Reading declaration files

`DeclarationFile.read` reads the text of a file. The members of its mapping are
read by what they have to be: where a text is wanted, every scalar stands for its
text as written, and where a switch is wanted, only a plain `true` or `false` will
do. The members may also stand in a sequence, in the order of `Member.all` and
with the last ones left out. Unknown members are passed over; a member that is
there twice is refused, and so is a file without the name of its collection.
-/

namespace SearchCollection

namespace Yaml.Document

/-- The text of a scalar. -/
def text (document : Document) (node : Node) : Reading String := do
  match ← document.follow node with
  | .scalar _ _ content => return content
  | _ => failure

/-- Whether a node says that there is nothing: a plain scalar that is empty or a word for null. One
that is tagged as null has to be such a word. -/
def isAbsent? : Node → Option Bool
  | .scalar properties .plain content =>
      match properties.tag with
      | none => some (content.isEmpty || isNullWord content)
      | some tag =>
          if StandardTag.ofText? tag = some .null then
            if isNullWord content then some true else none
          else some false
  | _ => some false

/-- What a node holds, unless it says that there is nothing. -/
def optional {α : Type} (document : Document) (read : Node → Reading α) (node : Node) :
    Reading (Option α) := do
  let node ← document.follow node
  match isAbsent? node with
  | some true => return none
  | some false => return some (← read node)
  | none => failure

/-- The Boolean of a plain scalar, or of a literal one that is tagged as a Boolean. -/
def switch (document : Document) (node : Node) : Reading Bool := do
  match ← document.follow node with
  | .scalar properties style content =>
      let tagged := properties.tag.bind StandardTag.ofText? = some .bool
      if style = .plain || style = .literal && tagged then
        match boolOfWord? content with
        | some value => return value
        | none => failure
      else failure
  | _ => failure

/-- The texts of a sequence; an empty plain scalar is the empty one. -/
def texts (document : Document) (node : Node) : Reading (List String) := do
  match ← document.follow node with
  | .sequence _ items => items.mapM document.text
  | .scalar _ .plain content => if content.isEmpty then return [] else failure
  | _ => failure

end Yaml.Document

namespace DeclarationFile

open Yaml (Node Reading)

/-- A member that a file may have. -/
inductive Member where
  | collection
  | primaryKey
  | softDelete
  | deletedAt
  | instants
  | schema
deriving DecidableEq

namespace Member

/-- The members in the order in which a sequence lists them. -/
def all : List Member :=
  [.collection, .primaryKey, .softDelete, .deletedAt, .instants, .schema]

def name : Member → String
  | .collection => "collection"
  | .primaryKey => "primary_key"
  | .softDelete => "soft_delete"
  | .deletedAt => "deleted_at"
  | .instants => "timestamps"
  | .schema => "schema"

def ofName? (name : String) : Option Member :=
  all.find? fun member => member.name = name

end Member

/-- A file with no members yet. -/
def blank : DeclarationFile := { collection := "" }

/-- The file with one more member. -/
def put (document : Yaml.Document) (file : DeclarationFile) (member : Member) (node : Node) :
    Reading DeclarationFile := do
  match member with
  | .collection => return { file with collection := ← document.text node }
  | .primaryKey => return { file with primaryKey := ← document.optional document.text node }
  | .softDelete => return { file with softDelete := ← document.switch node }
  | .deletedAt => return { file with deletedAt := ← document.optional document.text node }
  | .instants => return { file with instants := ← document.texts node }
  | .schema =>
      return { file with
        schema := ← document.optional (document.tree (Yaml.maxDepth - 1)) node }

/-- The file of the entries of a mapping, behind the members that have been seen. -/
def readEntries (document : Yaml.Document) (seen : List Member) (file : DeclarationFile) :
    List (Node × Node) → Reading DeclarationFile
  | [] => if seen.contains .collection then return file else failure
  | (key, node) :: rest => do
      match Member.ofName? (← document.text key) with
      | none => readEntries document seen file rest
      | some member =>
          if seen.contains member then failure
          let file ← put document file member node
          readEntries document (member :: seen) file rest

/-- The file of the items of a sequence, one for each of the members in order. -/
def readItems (document : Yaml.Document) (file : DeclarationFile) :
    List Member → List Node → Reading DeclarationFile
  | _, [] => return file
  | [], _ :: _ => failure
  | member :: members, node :: rest => do
      let file ← put document file member node
      readItems document file members rest

/-- The file of a document. -/
def ofDocument (document : Yaml.Document) : Reading DeclarationFile :=
  match document.root with
  | .mapping _ entries => readEntries document [] blank entries
  | .sequence _ (first :: rest) => readItems document blank Member.all (first :: rest)
  | _ => failure

/-- The file that a text holds. -/
def read (text : String) : Except Fault DeclarationFile :=
  match (Yaml.Document.ofString? text).bind fun document => (ofDocument document).run' 0 with
  | some file => .ok file
  | none => .error .yaml

end DeclarationFile

end SearchCollection
