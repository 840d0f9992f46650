import SearchCollection.Yaml.Source
import SearchCollection.Yaml.Token.Basic
import SearchCollection.Number.Reading

/-! # Names in YAML text

Anchors, tags and the directives in front of a document. A tag is a handle,
which stands for a text of its own, and a suffix; between angle brackets the
whole tag is written out and its handle is empty. Percent signs in tags stand
before the bytes of characters that cannot be written there.
-/

namespace SearchCollection.Yaml.Source

/-- Whether a character may stand in the name of an anchor, a handle or a directive. -/
def isWordChar (c : Char) : Bool :=
  c.isAlphanum || c = '_' || c = '-'

/-- Whether a character may stand in a tag; some may only between angle brackets. -/
def isTagChar (bracketed : Bool) (c : Char) : Bool :=
  isWordChar c || ";/?:@&=+$.%!~*\x27()".contains c || bracketed && ",[]".contains c

/-- The name of an anchor behind its mark. -/
def anchorName? (source : Source) : Option (String × Source) :=
  let (name, rest) := spanChars isWordChar source
  if !name.isEmpty && (atGap rest || rest.head?.any fun next => "?:,]\x7d%@`".contains next.char)
  then some (.ofList name, rest)
  else none

/-- The bytes that the characters of a tag stand for. -/
def tagBytes? : List Char → Option (List UInt8)
  | [] => some []
  | '%' :: a :: b :: rest => do
      let byte ← readDigits 16 [a, b]
      let bytes ← tagBytes? rest
      return .ofNat byte :: bytes
  | c :: rest => do
      if c = '%' then none
      let bytes ← tagBytes? rest
      return String.utf8EncodeChar c ++ bytes

/-- The characters of a tag at the front, with the bytes behind percent signs put together. -/
def tagText? (bracketed : Bool) (source : Source) : Option (String × Source) := do
  let (cs, rest) := spanChars (isTagChar bracketed) source
  let bytes ← tagBytes? cs
  let text ← String.fromUTF8? ⟨bytes.toArray⟩
  return (text, rest)

/-- The handle at the front, behind its first exclamation mark: a word and another such mark, or
nothing if the tag has no handle of its own. -/
def handle? (source : Source) : Option (String × Source) :=
  match spanChars isWordChar source with
  | (word, ⟨'!', _, _⟩ :: rest) => some ("!" ++ .ofList word ++ "!", rest)
  | _ => none

/-- The handle and the suffix of a tag behind its first exclamation mark. -/
def tagParts? (source : Source) : Option (String × String × Source) :=
  match source with
  | ⟨'<', _, _⟩ :: rest => do
      let (suffix, rest) ← tagText? true rest
      match rest with
      | ⟨'>', _, _⟩ :: rest => if suffix.isEmpty then none else some ("", suffix, rest)
      | _ => none
  | source =>
      match handle? source with
      | some (handle, rest) => do
          let (suffix, rest) ← tagText? false rest
          if suffix.isEmpty then none else some (handle, suffix, rest)
      | none => do
          let (suffix, rest) ← tagText? false source
          if suffix.isEmpty then some ("", "!", rest) else some ("!", suffix, rest)

/-- The token of a tag behind its first exclamation mark. A gap follows it; inside brackets a
comma may, too. -/
def tag? (inFlow : Bool) (source : Source) : Option (Token × Source) := do
  let (handle, suffix, rest) ← tagParts? source
  if atGap rest || inFlow && rest.head?.any fun next => next.char = ',' then
    some (.tag handle suffix, rest)
  else none

/-- A part of a version number. -/
def versionPart? (source : Source) : Option (Nat × Source) :=
  let (digits, rest) := spanChars Char.isDigit source
  if digits.isEmpty || 9 < digits.length then none else some (digitsValue digits, rest)

/-- The version behind its directive's name. -/
def version? (source : Source) : Option (Token × Source) := do
  let (major, rest) ← versionPart? (skipInlineBlanks source)
  match rest with
  | ⟨'.', _, _⟩ :: rest => do
      let (minor, rest) ← versionPart? rest
      return (.version major minor, rest)
  | _ => none

/-- The handle and what it stands for, behind their directive's name. -/
def tagHandle? (source : Source) : Option (Token × Source) :=
  match skipInlineBlanks source with
  | ⟨'!', _, _⟩ :: rest => do
      let (handle, rest) := (handle? rest).getD ("!", rest)
      if !(rest.head?.any fun next => Text.isInlineBlank next.char) then none
      let (replacement, rest) ← tagText? true (skipInlineBlanks rest)
      if replacement.isEmpty || !atGap rest then none
      return (.tagHandle handle replacement, rest)
  | _ => none

/-- The directive behind its percent sign, with the end of its line. -/
def directive? (source : Source) : Option (Token × Source) := do
  let (name, rest) := spanChars isWordChar source
  if !atGap rest then none
  let (token, rest) ←
    if name = "YAML".toList then version? rest
    else if name = "TAG".toList then tagHandle? rest
    else none
  let rest ← skipLineEnd? rest
  return (token, rest)

end SearchCollection.Yaml.Source
