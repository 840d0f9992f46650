import SearchCollection.Toml.Scalar
import SearchCollection.Toml.Table

/-! # Reading TOML

`Toml.read?` reads the tree of a settings file. A line is blank, a header, or a
key with its value; a comment may end it. A value between brackets may run over
several lines, one in braces may not. At most `maxDepth` arrays and tables may
stand inside each other in a value.
-/

namespace SearchCollection.Toml

open Text (isInlineBlank)

/-- The number of arrays and tables that may stand inside each other in a value. -/
def maxDepth : Nat := 79

/-- What follows the blanks at the front. -/
def skipBlanks (cs : List Char) : List Char :=
  cs.dropWhile isInlineBlank

/-- What follows a comment, if one is next: its line end. It has no control characters. -/
def skipComment (cs : List Char) : List Char :=
  if cs.head? = some '#' then cs.dropWhile isTextChar else cs

/-- What follows the blanks, comments and line ends at the front. -/
def skipLines (cs : List Char) : List Char :=
  let rest := skipComment (skipBlanks cs)
  match lineEnd? rest with
  | none => rest
  | some more => if more.length < cs.length then skipLines more else rest
termination_by cs.length

/-- Values between brackets, each read by `read`. -/
def items? (read : List Char → Option (Toml × List Char)) (cs : List Char) :
    Option (List Toml × List Char) :=
  match skipLines cs with
  | ']' :: rest => some ([], rest)
  | source => do
      let (item, rest) ← read source
      match skipLines rest with
      | ']' :: rest => return ([item], rest)
      | ',' :: rest =>
          if rest.length < cs.length then do
            let (items, rest) ← items? read rest
            return (item :: items, rest)
          else none
      | _ => none
termination_by cs.length

/-- A key with points, split before its last part. -/
def splitKey? (parts : List String) : Option (List String × String) :=
  parts.getLast?.map fun last => (parts.dropLast, last)

/-- A key and its value on one line. -/
def pair? (read : List Char → Option (Toml × List Char)) (cs : List Char) :
    Option (List String × String × Toml × List Char) := do
  let (parts, rest) ← key? cs
  let (path, key) ← splitKey? parts
  let rest ← after? '=' rest
  let (value, rest) ← read (skipBlanks rest)
  return (path, key, value, rest)

/-- Entries in braces, on one line, added to the ones before. -/
def entries? (read : List Char → Option (Toml × List Char)) (sofar : DraftEntries)
    (cs : List Char) : Option (Toml × List Char) := do
  let (path, key, value, rest) ← pair? read cs
  let (_, sofar) ← DraftEntries.insert? path key value .header sofar
  match skipBlanks rest with
  | '\x7d' :: rest => return (.table (Draft.finishEntries sofar), rest)
  | ',' :: rest => if rest.length < cs.length then entries? read sofar rest else none
  | _ => none
termination_by cs.length

/-- A value, with so many arrays and tables still allowed inside each other. -/
def value? (depth : Nat) (cs : List Char) : Option (Toml × List Char) :=
  match cs with
  | '"' :: _ | '\x27' :: _ => (text? cs).map fun (content, rest) => (.text content, rest)
  | '[' :: rest =>
      match depth with
      | 0 => none
      | depth + 1 => (items? (value? depth) rest).map fun (items, rest) => (.array items, rest)
  | '\x7b' :: rest =>
      match depth with
      | 0 => none
      | depth + 1 =>
          match skipBlanks rest with
          | '\x7d' :: rest => some (.table [], rest)
          | source => entries? (value? depth) [] source
  | cs => word? cs

/-- How far a document has been read. -/
structure Progress where
  entries : DraftEntries := []
  /-- The path of the last header. -/
  current : List String := []

/-- A header behind its opening bracket. -/
def header? (progress : Progress) (cs : List Char) : Option (Progress × List Char) :=
  match cs with
  | '[' :: rest => do
      let (parts, rest) ← key? rest
      let (path, key) ← splitKey? parts
      let rest ← (after? ']' rest).bind (after? ']')
      let entries ← progress.entries.openNext? path key
      return (⟨entries, parts⟩, rest)
  | cs => do
      let (parts, rest) ← key? cs
      let (path, key) ← splitKey? parts
      let rest ← after? ']' rest
      let entries ← progress.entries.openTable? path key
      return (⟨entries, parts⟩, rest)

/-- What a line holds besides blanks and a comment. -/
def content? (progress : Progress) (cs : List Char) : Option (Progress × List Char) :=
  match cs with
  | [] => some (progress, [])
  | '[' :: rest => header? progress rest
  | c :: rest =>
      if c = '#' || c = '\n' || c = '\r' then some (progress, c :: rest)
      else do
        let (path, key, value, rest) ← pair? (value? maxDepth) (c :: rest)
        let entries ← progress.entries.insertAt? progress.current path key value
        return ({ progress with entries := entries }, rest)

/-- The lines of a document, up to its end. -/
def lines? (progress : Progress) (cs : List Char) : Option Progress := do
  let (progress, rest) ← content? progress (skipBlanks cs)
  match skipComment (skipBlanks rest) with
  | [] => return progress
  | rest =>
      match lineEnd? rest with
      | some more => if more.length < cs.length then lines? progress more else none
      | none => none
termination_by cs.length

/-- The entries of the document that a text holds. -/
def read? (text : String) : Option (List (String × Toml)) :=
  let cs := match text.toList with
    | '\ufeff' :: rest => rest
    | cs => cs
  (lines? {} cs).map fun progress => Draft.finishEntries progress.entries

end SearchCollection.Toml
