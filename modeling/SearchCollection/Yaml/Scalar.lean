import SearchCollection.Yaml.Basic
import SearchCollection.Yaml.Token.Basic
import SearchCollection.Number.Power
import SearchCollection.Number.Reading

/-! # The meaning of scalars

A plain scalar is null, a Boolean, a number or else a text, in this order
(`Yaml.ofPlain?`); all other scalars are texts. The standard tags ask for one of
the kinds, whatever the style. Digits behind a leading zero are a text. A whole
number that fits neither 64 bits without a sign nor 64 bits with one is refused
as long as 128 bits hold it, and a float beyond that.
-/

namespace SearchCollection.Yaml

def isNullWord (text : String) : Bool :=
  text = "null" || text = "Null" || text = "NULL" || text = "~"

def boolOfWord? (text : String) : Option Bool :=
  if text = "true" || text = "True" || text = "TRUE" then some true
  else if text = "false" || text = "False" || text = "FALSE" then some false
  else none

/-- Whether the text is all digits behind a zero and an optional sign, which is no number. -/
def hasLeadingZero (cs : List Char) : Bool :=
  match (spanSign cs).2 with
  | '0' :: rest => !rest.isEmpty && rest.all Char.isDigit
  | _ => false

/-- The size of a whole number with its base in front, or in decimal digits. -/
def readSize (cs : List Char) : Option Nat :=
  let marked := match cs with
    | '0' :: 'x' :: rest => readDigits 16 rest
    | '0' :: 'o' :: rest => readDigits 8 rest
    | '0' :: 'b' :: rest => readDigits 2 rest
    | _ => none
  marked.or (if hasLeadingZero cs then none else readDigits 10 cs)

/-- A whole number of any size. -/
def readWhole (cs : List Char) : Option Int :=
  match cs with
  | '-' :: rest => (readSize rest).map fun size => -(size : Int)
  | '+' :: rest => (readSize rest).map Int.ofNat
  | cs => (readSize cs).map Int.ofNat

/-- A double in one of the spellings of declaration files: a finite number, or a word with a
point. -/
def readDouble (cs : List Char) : Option Binary64 :=
  let text := String.ofList cs
  let unsigned := match cs with
    | '+' :: rest => rest
    | cs => cs
  let word := String.ofList unsigned
  if cs.head? = some '+' && (unsigned.head? = some '+' || unsigned.head? = some '-') then none
  else if word = ".inf" || word = ".Inf" || word = ".INF" then some (.infinity false)
  else if text = "-.inf" || text = "-.Inf" || text = "-.INF" then some (.infinity true)
  else if text = ".nan" || text = ".NaN" || text = ".NAN" then some (.nan false)
  else (readFloat unsigned).filter fun value => !value.isNaN && !value.isInfinite

/-- What a text is as a number. -/
inductive NumberReading where
  | number (value : YamlNumber)
  /-- A whole number that is too large. -/
  | refused
  | noNumber

/-- The whole number that a text stands for. -/
def wholeReading (cs : List Char) : NumberReading :=
  match readWhole cs with
  | none => .noNumber
  | some value =>
      if -twoTo 63 ≤ value ∧ value < twoTo 64 then .number (.integer value)
      else if -twoTo 127 ≤ value ∧ value < twoTo 128 then .refused
      else .noNumber

/-- The tree of a plain scalar without a tag; none if it is a number that is refused. -/
def ofPlain? (text : String) : Option Yaml :=
  let cs := text.toList
  if text.isEmpty || isNullWord text then some .null
  else match boolOfWord? text with
    | some value => some (.bool value)
    | none =>
        match wholeReading cs with
        | .number value => some (.number value)
        | .refused => none
        | .noNumber =>
            match if hasLeadingZero cs then none else readDouble cs with
            | some value => some (.number (.float value))
            | none => some (.string text)

/-- The standard tags that ask for a kind. -/
inductive StandardTag where
  | null
  | bool
  | int
  | float
deriving DecidableEq

namespace StandardTag

def ofText? (tag : String) : Option StandardTag :=
  if tag = "tag:yaml.org,2002:null" then some .null
  else if tag = "tag:yaml.org,2002:bool" then some .bool
  else if tag = "tag:yaml.org,2002:int" then some .int
  else if tag = "tag:yaml.org,2002:float" then some .float
  else none

/-- The tree of a text that is asked to be of the kind. -/
def read? (text : String) : StandardTag → Option Yaml
  | .null => if isNullWord text then some .null else none
  | .bool => (boolOfWord? text).map .bool
  | .int =>
      match wholeReading text.toList with
      | .number value => some (.number value)
      | _ => none
  | .float => (readDouble text.toList).map fun value => .number (.float value)

end StandardTag

/-- The tree of a scalar with a tag that is not one of the document's own. -/
def ofScalar? (tag : Option String) (style : ScalarStyle) (text : String) : Option Yaml :=
  match tag with
  | none => if style = .plain then ofPlain? text else some (.string text)
  | some tag =>
      match StandardTag.ofText? tag with
      | some kind => kind.read? text
      | none => some (.string text)

end SearchCollection.Yaml
