import SearchCollection.Files.Path
import SearchCollection.Files.Fault

/-! # Working with files

What the program does with files is written for any host: a monad that can look
at paths, read, list and write. The command line uses the files of the machine,
and a `FileTree` can take their place.
-/

namespace SearchCollection

/-- What stands at a path. -/
inductive PathKind where
  | file
  | folder
deriving DecidableEq

/-- A monad with files. -/
class FileHost (m : Type → Type) where
  /-- What stands at a path, if anything does. -/
  kind? : Path → m (Option PathKind)
  /-- The text of a file. -/
  readText : Path → m (Except FileFault String)
  /-- The names in a folder, in any order. -/
  list : Path → m (Except FileFault (List String))
  /-- Makes a folder and those around it, as far as they are missing. -/
  makeFolders : Path → m (Except FileFault Unit)
  /-- Gives a file a text, and makes it if it is missing. -/
  write : Path → String → m (Except FileFault Unit)
  /-- Adds to the text of a file, and makes it if it is missing. -/
  append : Path → String → m (Except FileFault Unit)

end SearchCollection
