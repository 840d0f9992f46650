import SearchCollection.Toml.Basic

/-! # Writing texts for settings files

A text is written between double quotes, and with escape sequences only where
nothing else helps: single quotes, three double quotes and three single quotes
are tried in this order before.
-/

namespace SearchCollection.Toml

/-- Whether a character can only be written as an escape sequence. -/
def needsEscape (c : Char) : Bool :=
  c.toNat < 32 && c ≠ '\t' && c ≠ '\n' || c = '\x7f'

/-- The most characters of a kind in a row, where `current` of them have just been seen. -/
def longestRun (mark : Char) : (current : Nat) → List Char → Nat
  | current, [] => current
  | current, c :: rest =>
      if c = mark then longestRun mark (current + 1) rest
      else max current (longestRun mark 0 rest)

/-- The ways to write a text. -/
inductive TextStyle where
  | basic
  | literal
  | basicLines
  | literalLines
deriving DecidableEq

namespace TextStyle

/-- The way in which a text is written. -/
def ofText (cs : List Char) : TextStyle :=
  let escapes := cs.any needsEscape
  let backslash := cs.contains '\\'
  let newline := cs.contains '\n'
  let double := longestRun '"' 0 cs
  let single := longestRun '\x27' 0 cs
  if !escapes && !backslash && double = 0 && !newline then .basic
  else if !escapes && single = 0 && !newline then .literal
  else if !escapes && !backslash && double ≤ 2 then .basicLines
  else if !escapes && single ≤ 2 then .literalLines
  else if newline then .basicLines
  else .basic

def delimiter : TextStyle → String
  | .basic => "\""
  | .literal => "\x27"
  | .basicLines => "\"\"\""
  | .literalLines => "\x27\x27\x27"

def runsOverLines : TextStyle → Bool
  | .basicLines | .literalLines => true
  | _ => false

end TextStyle

/-- A control character as an escape sequence. -/
def writeEscape (c : Char) : List Char :=
  match c with
  | '\x08' => ['\\', 'b']
  | '\t' => ['\\', 't']
  | '\n' => ['\\', 'n']
  | '\x0c' => ['\\', 'f']
  | '\r' => ['\\', 'r']
  | c =>
      let digits := (Nat.toDigits 16 c.toNat).map Char.toUpper
      '\\' :: 'u' :: List.replicate (4 - digits.length) '0' ++ digits

/-- The characters between double quotes. Of the quotes in a row, so many stand for themselves. -/
def writeEscaped (lines : Bool) : (quotes : Nat) → List Char → List Char
  | _, [] => []
  | quotes, c :: rest =>
      if c = '"' then
        if lines && quotes < 2 then '"' :: writeEscaped lines (quotes + 1) rest
        else '\\' :: '"' :: writeEscaped lines 0 rest
      else if c = '\\' then '\\' :: '\\' :: writeEscaped lines 0 rest
      else if c = '\n' && lines then '\n' :: writeEscaped lines 0 rest
      else if c.toNat < 32 || c = '\x7f' then writeEscape c ++ writeEscaped lines 0 rest
      else c :: writeEscaped lines 0 rest

/-- A text with its quotes. Several lines begin on a line of their own. -/
def writeText (text : String) : String :=
  let cs := text.toList
  let style := TextStyle.ofText cs
  let content := match style with
    | .basic => writeEscaped false 0 cs
    | .basicLines => writeEscaped true 0 cs
    | _ => cs
  let start := if style.runsOverLines && cs.contains '\n' then "\n" else ""
  style.delimiter ++ start ++ .ofList content ++ style.delimiter

end SearchCollection.Toml
