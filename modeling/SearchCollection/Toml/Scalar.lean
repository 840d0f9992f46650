import SearchCollection.Toml.Basic
import SearchCollection.Number.Power
import SearchCollection.Number.Reading
import SearchCollection.Text.Blank
import SearchCollection.Time.Date

/-! # Keys and scalars of TOML

A key is a bare word or a quoted text. Texts are written in four ways: between
one or three double quotes with escape sequences, or between one or three single
quotes without. Numbers may have single underscores between their digits. Each
reader takes a scalar from the front and gives what follows it.
-/

namespace SearchCollection.Toml

open Text (isInlineBlank)

/-- Whether a character may stand for itself in a text on one line, marks apart. -/
def isTextChar (c : Char) : Bool :=
  c = '\t' || ' ' ≤ c && c ≠ '\x7f'

/-- What follows the end of a line, if one is next. -/
def lineEnd? : List Char → Option (List Char)
  | '\n' :: rest => some rest
  | '\r' :: '\n' :: rest => some rest
  | _ => none

/-- What follows the end of a line, or all characters if none is next. -/
def skipLineEnd (cs : List Char) : List Char :=
  (lineEnd? cs).getD cs

/-- The character that a backslash and one letter stand for. -/
def shortEscape? : Char → Option Char
  | 'b' => some '\x08'
  | 't' => some '\t'
  | 'n' => some '\n'
  | 'f' => some '\x0c'
  | 'r' => some '\r'
  | '"' => some '"'
  | '\\' => some '\\'
  | _ => none

/-- The character with the code that the digits give. -/
def codeChar? (digits : List Char) : Option Char := do
  let code ← readDigits 16 digits
  if Nat.isValidChar code then some (.ofNat code) else none

/-- What is read of a text with escape sequences at one step. -/
inductive EscapeStep where
  | char (c : Char)
  /-- So many digits of a code follow. -/
  | code (length : Nat)

/-- The step behind a backslash that the letter asks for. -/
def escapeStep? (c : Char) : Option EscapeStep :=
  if c = 'u' then some (.code 4)
  else if c = 'U' then some (.code 8)
  else (shortEscape? c).map .char

/-- The character of an escape sequence behind its backslash, and what follows. -/
def escape? : List Char → Option (Char × List Char)
  | [] => none
  | c :: rest =>
      match escapeStep? c with
      | none => none
      | some (.char value) => some (value, rest)
      | some (.code length) =>
          if rest.length < length then none
          else (codeChar? (rest.take length)).map fun value => (value, rest.drop length)

/-- The characters up to a closing double quote on the same line, and what follows it. -/
def basicText? (cs : List Char) : Option (List Char × List Char) :=
  match cs with
  | [] => none
  | '"' :: rest => some ([], rest)
  | '\\' :: after =>
      match escape? after with
      | none => none
      | some (c, rest) =>
          if rest.length ≤ after.length then
            (basicText? rest).map fun (content, rest) => (c :: content, rest)
          else none
  | c :: rest =>
      if isTextChar c then
        (basicText? rest).map fun (content, rest) => (c :: content, rest)
      else none
termination_by cs.length

/-- The characters up to a closing single quote on the same line, and what follows it. -/
def literalText? : List Char → Option (List Char × List Char)
  | [] => none
  | c :: rest =>
      if c = '\x27' then some ([], rest)
      else if isTextChar c then
        (literalText? rest).map fun (content, rest) => (c :: content, rest)
      else none

/-- Behind three closing quotes: up to two more belong to the text. -/
def closingQuotes (quote : Char) : List Char → List Char × List Char
  | a :: b :: rest =>
      if a = quote && b = quote then ([a, b], rest)
      else if a = quote then ([a], b :: rest)
      else ([], a :: b :: rest)
  | [a] => if a = quote then ([a], []) else ([], [a])
  | [] => ([], [])

/-- What follows the blanks and line ends at the front. -/
def skipBlankLines : List Char → List Char
  | [] => []
  | c :: rest =>
      if isInlineBlank c || c = '\n' || c = '\r' && rest.head? = some '\n' then skipBlankLines rest
      else c :: rest

/-- The lines behind a backslash that ends its line, without the blanks in front. -/
def joinedLines? (cs : List Char) : Option (List Char) :=
  (lineEnd? (cs.dropWhile isInlineBlank)).map skipBlankLines

/-- The characters up to three double quotes, over several lines, and what follows. A backslash at
the end of a line joins the next line that is not blank to it. -/
def basicLines? (cs : List Char) : Option (List Char × List Char) :=
  match cs with
  | [] => none
  | '"' :: '"' :: '"' :: rest => some (closingQuotes '"' rest)
  | '\r' :: '\n' :: rest =>
      (basicLines? rest).map fun (content, rest) => ('\n' :: content, rest)
  | '\\' :: after =>
      match joinedLines? after, escape? after with
      | some rest, _ => if rest.length ≤ after.length then basicLines? rest else none
      | none, some (c, rest) =>
          if rest.length ≤ after.length then
            (basicLines? rest).map fun (content, rest) => (c :: content, rest)
          else none
      | none, none => none
  | c :: rest =>
      if isTextChar c || c = '\n' then
        (basicLines? rest).map fun (content, rest) => (c :: content, rest)
      else none
termination_by cs.length

/-- The characters up to three single quotes, over several lines, and what follows. -/
def literalLines? : List Char → Option (List Char × List Char)
  | [] => none
  | '\x27' :: '\x27' :: '\x27' :: rest => some (closingQuotes '\x27' rest)
  | '\r' :: '\n' :: rest =>
      (literalLines? rest).map fun (content, rest) => ('\n' :: content, rest)
  | c :: rest =>
      if isTextChar c || c = '\n' then
        (literalLines? rest).map fun (content, rest) => (c :: content, rest)
      else none

/-- A text on one line, with what follows; none if no quote is next. -/
def lineText? : List Char → Option (List Char × List Char)
  | '"' :: rest => basicText? rest
  | '\x27' :: rest => literalText? rest
  | _ => none

/-- A text in any of the four ways. A line end right behind three opening quotes is no part of
it. -/
def text? : List Char → Option (String × List Char)
  | '"' :: '"' :: '"' :: rest =>
      (basicLines? (skipLineEnd rest)).map fun (content, rest) => (.ofList content, rest)
  | '\x27' :: '\x27' :: '\x27' :: rest =>
      (literalLines? (skipLineEnd rest)).map fun (content, rest) => (.ofList content, rest)
  | cs => (lineText? cs).map fun (content, rest) => (.ofList content, rest)

/-! ## Numbers and words -/

/-- The digits without the underscores, each of which stands between two digits. -/
def plainDigits? : List Char → Option (List Char)
  | [] => none
  | [c] => if c = '_' then none else some [c]
  | a :: b :: rest =>
      if a = '_' then none
      else if b = '_' then (plainDigits? rest).map (a :: ·)
      else (plainDigits? (b :: rest)).map (a :: ·)

/-- The decimal digits of a part of a number. -/
def decimalDigits? (cs : List Char) : Option (List Char) :=
  (plainDigits? cs).filter fun digits => digits.all Char.isDigit

/-- The decimal digits of a whole part: no zero stands before another digit. -/
def wholeDigits? (cs : List Char) : Option (List Char) :=
  (decimalDigits? cs).filter fun digits => digits.length = 1 || digits.head? ≠ some '0'

/-- A whole number of any size. -/
def whole? (cs : List Char) : Option Int :=
  match cs with
  | '0' :: 'x' :: digits => ((plainDigits? digits).bind (readDigits 16)).map Int.ofNat
  | '0' :: 'o' :: digits => ((plainDigits? digits).bind (readDigits 8)).map Int.ofNat
  | '0' :: 'b' :: digits => ((plainDigits? digits).bind (readDigits 2)).map Int.ofNat
  | cs =>
      let (negative, rest) := spanSign cs
      (wholeDigits? rest).map fun digits =>
        let size : Int := digitsValue digits
        if negative then -size else size

/-- The digits behind an exponent's mark, with their sign. -/
def exponent? (cs : List Char) : Option (List Char) :=
  let (negative, rest) := spanSign cs
  (decimalDigits? rest).map fun digits => if negative then '-' :: digits else digits

/-- A number with a fraction or an exponent, in the form that `readFloat` takes. -/
def plainFloat? (cs : List Char) : Option (List Char) := do
  let (negative, rest) := spanSign cs
  let sign := if negative then ['-'] else []
  let (size, mark) := rest.span fun c => c ≠ 'e' && c ≠ 'E'
  let (whole, point) := size.span fun c => c ≠ '.'
  if mark.isEmpty && point.isEmpty then none
  let whole ← wholeDigits? whole
  let fraction ← if point.isEmpty then some [] else (decimalDigits? point.tail).map ('.' :: ·)
  let exponent ← if mark.isEmpty then some [] else (exponent? mark.tail).map ('e' :: ·)
  return sign ++ whole ++ fraction ++ exponent

/-- A double. One that is too large is refused. -/
def float? (cs : List Char) : Option Binary64 :=
  let (negative, rest) := spanSign cs
  let word := String.ofList rest
  if word = "inf" then some (.infinity negative)
  else if word = "nan" then some (.nan negative)
  else ((plainFloat? cs).bind readFloat).filter fun value => negative || !value.isInfinite

/-- A number or a Boolean that is the whole of a word. -/
def ofWord? (cs : List Char) : Option Toml :=
  let word := String.ofList cs
  if word = "true" then some (.bool true)
  else if word = "false" then some (.bool false)
  else match whole? cs with
    | some value => if -twoTo 63 ≤ value ∧ value < twoTo 63 then some (.integer value) else none
    | none => (float? cs).map .float

/-- Whether a character may stand in a number, a Boolean or a bare key. -/
def isWordChar (c : Char) : Bool :=
  c.isAlphanum || c = '_' || c = '-' || c = '+' || c = '.'

/-! ## Dates and times -/

/-- A number of so many digits within a range, and what follows. -/
def fixedDigits? (count low high : Nat) (cs : List Char) : Option (Nat × List Char) :=
  let digits := cs.take count
  let value := digitsValue digits
  if digits.length = count && digits.all Char.isDigit && low ≤ value && value ≤ high then
    some (value, cs.drop count)
  else none

/-- What follows a character, if it is next. -/
def after? (c : Char) : List Char → Option (List Char)
  | next :: rest => if next = c then some rest else none
  | [] => none

/-- What follows a date. -/
def afterDate? (cs : List Char) : Option (List Char) := do
  let (year, rest) ← fixedDigits? 4 0 9999 cs
  let (month, rest) ← fixedDigits? 2 1 12 (← after? '-' rest)
  let (_, rest) ← fixedDigits? 2 1 (Date.daysInMonth year month) (← after? '-' rest)
  return rest

/-- What follows the fraction of a second, if there is one. -/
def afterFraction? (cs : List Char) : Option (List Char) :=
  match cs with
  | '.' :: rest => if rest.head?.any Char.isDigit then some (rest.dropWhile Char.isDigit) else none
  | cs => some cs

/-- What follows a time of day. -/
def afterTime? (cs : List Char) : Option (List Char) := do
  let (_, rest) ← fixedDigits? 2 0 23 cs
  let (_, rest) ← fixedDigits? 2 0 59 (← after? ':' rest)
  let (_, rest) ← fixedDigits? 2 0 60 (← after? ':' rest)
  afterFraction? rest

/-- What follows the distance from universal time, if there is one. -/
def afterOffset? (cs : List Char) : Option (List Char) :=
  match cs with
  | c :: rest =>
      if c = 'Z' || c = 'z' then some rest
      else if c = '+' || c = '-' then do
        let (_, rest) ← fixedDigits? 2 0 23 rest
        let (_, rest) ← fixedDigits? 2 0 59 (← after? ':' rest)
        return rest
      else some cs
  | [] => some []

/-- What follows a date with or without a time of day, or such a time alone. -/
def afterMoment? (cs : List Char) : Option (List Char) :=
  match afterDate? cs with
  | none => afterTime? cs
  | some rest =>
      match rest with
      | c :: time =>
          if c = 'T' || c = 't' then (afterTime? time).bind afterOffset?
          else if c = ' ' then
            match afterTime? time with
            | some rest => afterOffset? rest
            | none => some rest
          else some rest
      | [] => some []

/-- A number, a Boolean, a date or a time. -/
def word? (cs : List Char) : Option (Toml × List Char) :=
  match afterMoment? cs with
  | some rest => some (.moment (.ofList (cs.take (cs.length - rest.length))), rest)
  | none =>
      let (word, rest) := cs.span isWordChar
      (ofWord? word).map fun value => (value, rest)

/-! ## Keys -/

/-- One part of a key. -/
def keyPart? (cs : List Char) : Option (String × List Char) :=
  match cs with
  | '"' :: _ | '\x27' :: _ => (lineText? cs).map fun (content, rest) => (.ofList content, rest)
  | _ =>
      let (word, rest) := cs.span fun c => c.isAlphanum || c = '_' || c = '-'
      if word.isEmpty then none else some (.ofList word, rest)

/-- The parts of a key, with a point between each two and blanks around. -/
def key? (cs : List Char) : Option (List String × List Char) :=
  let source := cs.dropWhile isInlineBlank
  match keyPart? source with
  | none => none
  | some (part, rest) =>
      let rest := rest.dropWhile isInlineBlank
      match rest with
      | '.' :: more =>
          if more.length < cs.length then
            (key? more).map fun (parts, rest) => (part :: parts, rest)
          else none
      | rest => some ([part], rest)
termination_by cs.length

end SearchCollection.Toml
