/-! # What can go wrong with a file -/

namespace SearchCollection

/-- Why a file or folder could not be read or written. -/
inductive FileFault where
  | notFound
  | exists
  | notADirectory
  | isADirectory
  /-- The bytes of the file are no text. -/
  | notText
  | other (text : String)
deriving DecidableEq

namespace FileFault

def message : FileFault → String
  | .notFound => "No such file or directory (os error 2)"
  | .exists => "File exists (os error 17)"
  | .notADirectory => "Not a directory (os error 20)"
  | .isADirectory => "Is a directory (os error 21)"
  | .notText => "stream did not contain valid UTF-8"
  | .other text => text

end FileFault

end SearchCollection
