import SearchCollection.Text.Printable

/-! # Quoted texts

Messages quote names and paths: the text stands between double quotes, and a
backslash marks what cannot stand there as itself. A tab, a line end and the
quote have short marks; a character that cannot be shown is written as its
number, such as `\u{200b}`.
-/

namespace SearchCollection.Text

/-- Which quotes a quoted text marks with a backslash besides the double one. -/
inductive Quoting where
  /-- Names and values: a single quote stands as itself. -/
  | text
  /-- Paths: a single quote is marked too. -/
  | path
deriving DecidableEq

/-- The written form of one character inside a quoted text. -/
def quoteChar (quoting : Quoting) (c : Char) : List Char :=
  if c = '\x00' then ['\\', '0']
  else if c = '\t' then ['\\', 't']
  else if c = '\r' then ['\\', 'r']
  else if c = '\n' then ['\\', 'n']
  else if c = '\\' then ['\\', '\\']
  else if c = '"' then ['\\', '"']
  else if c = '\x27' && quoting = .path then ['\\', '\x27']
  else if isShowable c then [c]
  else ['\\', 'u', '\x7b'] ++ Nat.toDigits 16 c.toNat ++ ['\x7d']

/-- The text between double quotes. -/
def quote (quoting : Quoting) (s : String) : String :=
  .ofList ('"' :: s.toList.flatMap (quoteChar quoting) ++ ['"'])

end SearchCollection.Text
