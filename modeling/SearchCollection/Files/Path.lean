import SearchCollection.Text.Pieces
import SearchCollection.Text.Quoted

/-! # Paths

A path is a text of names between slashes. Joining, the folder above and the
ending of a file name work on the text alone; no file is looked at.
-/

namespace SearchCollection

/-- A path as it is written. -/
abbrev Path := String

namespace Path

/-- The pieces between the slashes of a path. -/
def pieces (path : Path) : List String :=
  (Text.split '/' path.toList).map String.ofList

/-- The names of a path, without the empty ones that doubled slashes make. A slash at the end asks
for a folder, as the name of the folder itself does. -/
def names (path : Path) : List String :=
  let found := (pieces path).filter fun name => !name.isEmpty
  if path.toList.getLast? = some '/' then found ++ ["."] else found

/-- Whether the path starts at the root. -/
def isAbsolute (path : Path) : Bool :=
  path.toList.head? = some '/'

/-- The second path as seen from the first one; an absolute one stands for itself. -/
def join (base rest : Path) : Path :=
  if rest.isAbsolute || base = "" then rest
  else if base.toList.getLast? = some '/' then base ++ rest
  else base ++ "/" ++ rest

/-- The pieces from the last to the first without those at the end that name nothing new: empty ones
and single points, a single point at the very beginning apart. -/
def dropIdle : List String → List String
  | piece :: rest =>
      if piece.isEmpty || piece = "." && !rest.isEmpty then dropIdle rest else piece :: rest
  | [] => []

/-- The path of the folder that holds the last name; none for the root and the empty path. -/
def parent? (path : Path) : Option Path :=
  match dropIdle (pieces path).reverse with
  | [] => none
  | _ :: above =>
      let holder := "/".intercalate (dropIdle above).reverse
      some (if holder.isEmpty && path.isAbsolute then "/" else holder)

/-- The ending of a file name: what follows its last dot, unless nothing stands before the
dot. -/
def extension? (name : String) : Option String :=
  let reversed := name.toList.reverse
  match Text.cut '.' reversed with
  | some (ending, before) => if before.isEmpty || name = ".." then none
      else some (.ofList ending.reverse)
  | none => none

/-- The path in messages. -/
def quoted (path : Path) : String :=
  Text.quote .path path

end Path

end SearchCollection
