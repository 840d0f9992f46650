import SearchCollection.Json.Basic
import SearchCollection.Number.Layout

/-! # Written JSON

`Json.compact` writes a tree without any space, `Json.pretty` with two blanks
for each level and one entry on a line. Inside a string only the quote, the
backslash and the characters below the space are written with a backslash; all
else stands as itself.
-/

namespace SearchCollection.Json

/-- The written form of one character of a string. -/
def escapeChar (c : Char) : List Char :=
  if c = '"' then ['\\', '"']
  else if c = '\\' then ['\\', '\\']
  else if c = '\x08' then ['\\', 'b']
  else if c = '\x0c' then ['\\', 'f']
  else if c = '\n' then ['\\', 'n']
  else if c = '\r' then ['\\', 'r']
  else if c = '\t' then ['\\', 't']
  else if c.toNat < 16 then ['\\', 'u', '0', '0', '0'] ++ Nat.toDigits 16 c.toNat
  else if c.toNat < 32 then ['\\', 'u', '0', '0'] ++ Nat.toDigits 16 c.toNat
  else [c]

/-- The written form of a string. -/
def writeString (s : String) : String :=
  .ofList ('"' :: s.toList.flatMap escapeChar ++ ['"'])

/-- The written form of a double; one that is not finite is `null`. -/
def writeFloat (x : Binary64) : String :=
  FloatLayout.json.write x

def writeNumber : JsonNumber → String
  | .integer value => toString value
  | .float value => writeFloat value

/-- The written items between brackets. -/
def bracketed (items : List String) : String :=
  "[" ++ ",".intercalate items ++ "]"

/-- The written members between braces. -/
def braced (members : List (String × String)) : String :=
  "\x7b" ++ ",".intercalate (members.map fun member => writeString member.1 ++ ":" ++ member.2) ++
    "\x7d"

mutual

/-- The text of a tree without spaces. -/
def compact : Json → String
  | .null => "null"
  | .bool value => if value then "true" else "false"
  | .number value => writeNumber value
  | .string value => writeString value
  | .array items => bracketed (compactItems items)
  | .object members => braced (compactMembers members)

def compactItems : List Json → List String
  | [] => []
  | item :: rest => compact item :: compactItems rest

def compactMembers : List (String × Json) → List (String × String)
  | [] => []
  | (key, value) :: rest => (key, compact value) :: compactMembers rest

end

/-- A line end and the blanks of a level. -/
def newline (level : Nat) : String :=
  .ofList ('\n' :: List.replicate (2 * level) ' ')

/-- Entries one on a line between two marks; nothing between the marks when there is none. -/
def block (opening closing : String) (level : Nat) (entries : List String) : String :=
  if entries.isEmpty then opening ++ closing
  else opening ++ newline (level + 1) ++ ("," ++ newline (level + 1)).intercalate entries ++
    newline level ++ closing

mutual

/-- The text of a tree at a level, one entry on a line. -/
def prettyAt (level : Nat) : Json → String
  | .null => "null"
  | .bool value => if value then "true" else "false"
  | .number value => writeNumber value
  | .string value => writeString value
  | .array items => block "[" "]" level (prettyItems (level + 1) items)
  | .object members => block "\x7b" "\x7d" level (prettyMembers (level + 1) members)

def prettyItems (level : Nat) : List Json → List String
  | [] => []
  | item :: rest => prettyAt level item :: prettyItems level rest

def prettyMembers (level : Nat) : List (String × Json) → List String
  | [] => []
  | (key, value) :: rest =>
      (writeString key ++ ": " ++ prettyAt level value) :: prettyMembers level rest

end

/-- The text of a tree, one entry on a line. -/
def pretty (json : Json) : String :=
  prettyAt 0 json

end SearchCollection.Json
