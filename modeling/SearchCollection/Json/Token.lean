import SearchCollection.Json.Basic
import SearchCollection.Number.Power
import SearchCollection.Number.Reading

/-! # Tokens of a JSON text

`Json.Token.ofChars?` cuts a text into its tokens: marks, and values that hold no
other value. A number is whole unless it has a fraction or an exponent, is
written `-0` or does not fit 64 bits; then it is a double. Its digits, as many as
fit 64 bits, are rounded to a double first and scaled by powers of ten after, so
a number of many digits may miss the nearest double (`scaledFloat?`); one that
leaves the range of doubles is refused.
-/

namespace SearchCollection.Json

/-- The parts of a JSON text between its blanks. -/
inductive Token where
  | openArray
  | closeArray
  | openObject
  | closeObject
  | comma
  | colon
  | literal (value : Json)

namespace Token

/-- The largest whole number of a number text. -/
def maxWhole : Nat := twoTo 64 - 1

/-- The digits of a number that fit 64 bits, and the exponent of ten that goes with them. -/
structure Significand where
  digits : Nat
  exponent : Int

/-- A double times `10 ^ exponent`, rounded at each step of at most 308 places. -/
def scaledFloat? (size : Binary64) (exponent : Int) : Option Binary64 :=
  if 0 ≤ exponent then
    let scaled := size.mul (.ofDecimal false 1 exponent)
    if size.isZero then some size
    else if 308 < exponent || scaled.isInfinite then none
    else some scaled
  else if -308 ≤ exponent then some (size.div (.ofDecimal false 1 (-exponent)))
  else if size.isZero then some size
  else scaledFloat? (size.div (.ofDecimal false 1 308)) (exponent + 308)
termination_by (-exponent).toNat
decreasing_by omega

/-- The digits before the point: those that no longer fit count as places only. -/
def takeWhole : List Char → Significand → Bool → Significand × Bool
  | [], sofar, full => (sofar, full)
  | digit :: rest, sofar, full =>
      let next := sofar.digits * 10 + digitsValue [digit]
      if full || maxWhole < next then
        takeWhole rest ⟨sofar.digits, sofar.exponent + 1⟩ true
      else takeWhole rest ⟨next, sofar.exponent⟩ false

/-- The digits behind the point, up to the first that does not fit. -/
def takeFraction : List Char → Significand → Significand
  | [], sofar => sofar
  | digit :: rest, sofar =>
      let next := sofar.digits * 10 + digitsValue [digit]
      if maxWhole < next then sofar else takeFraction rest ⟨next, sofar.exponent - 1⟩

/-- The number with the given digits; `fraction` and `exponent` are `none` where the text has
none. -/
def number? (negative : Bool) (whole : List Char) (fraction : Option (List Char))
    (exponent : Option Int) : Option JsonNumber :=
  let (significand, full) := takeWhole whole ⟨0, 0⟩ false
  let exact := fraction.isNone && exponent.isNone && !full
  if exact && !negative then some (.integer significand.digits)
  else if exact && 0 < significand.digits && significand.digits ≤ twoTo 63 then
    some (.integer (-significand.digits))
  else
    let significand := takeFraction (fraction.getD []) significand
    (scaledFloat? (.ofInt significand.digits) (significand.exponent + exponent.getD 0)).map
      fun size => .float (if negative then size.neg else size)

/-- The fraction at the front: a point and at least one digit, if there is a point. -/
def spanFraction? : List Char → Option (Option (List Char) × List Char)
  | '.' :: rest =>
      let (digits, rest) := spanDigits rest
      if digits.isEmpty then none else some (some digits, rest)
  | cs => some (none, cs)

/-- The exponent at the front: `e`, an optional sign and at least one digit, if there is an `e`. -/
def spanExponent? : List Char → Option (Option Int × List Char)
  | [] => some (none, [])
  | c :: rest =>
      if c = 'e' || c = 'E' then
        let (negative, rest) := spanSign rest
        let (digits, rest) := spanDigits rest
        let size : Int := digitsValue digits
        if digits.isEmpty then none else some (some (if negative then -size else size), rest)
      else some (none, c :: rest)

/-- The number at the front. A zero is followed by no other digit of the whole part. -/
def spanNumber? (cs : List Char) : Option (JsonNumber × List Char) := do
  let (negative, rest) := match cs with
    | '-' :: rest => (true, rest)
    | rest => (false, rest)
  let (whole, rest) := spanDigits rest
  if whole.isEmpty || (whole.head? = some '0' && 1 < whole.length) then none
  let (fraction, rest) ← spanFraction? rest
  let (exponent, rest) ← spanExponent? rest
  let number ← number? negative whole fraction exponent
  return (number, rest)

/-- The value of four hexadecimal digits. -/
def hexFour? (a b c d : Char) : Option Nat := do
  return (((← hexDigit? a) * 16 + (← hexDigit? b)) * 16 + (← hexDigit? c)) * 16 + (← hexDigit? d)

/-- The character of two surrogates, a high one and a low one. -/
def surrogatePair? (high low : Nat) : Option Char :=
  if 0xD800 ≤ high ∧ high < 0xDC00 ∧ 0xDC00 ≤ low ∧ low < 0xE000 then
    some (.ofNat (0x10000 + (high - 0xD800) * 0x400 + (low - 0xDC00)))
  else none

/-- The character that a backslash and one letter stand for. -/
def shortEscape? (c : Char) : Option Char :=
  match c with
  | '"' => some '"'
  | '\\' => some '\\'
  | '/' => some '/'
  | 'b' => some '\x08'
  | 'f' => some '\x0c'
  | 'n' => some '\n'
  | 'r' => some '\r'
  | 't' => some '\t'
  | _ => none

/-- The string up to its closing quote, and what follows. A number beyond the first plane is
written as two surrogates; one alone is refused. -/
def spanString? : List Char → Option (List Char × List Char)
  | [] => none
  | '"' :: rest => some ([], rest)
  | '\\' :: 'u' :: a :: b :: c :: d :: '\\' :: 'u' :: e :: f :: g :: h :: rest => do
      let first ← hexFour? a b c d
      match (hexFour? e f g h).bind (surrogatePair? first) with
      | some pair =>
          let (content, rest) ← spanString? rest
          return (pair :: content, rest)
      | none =>
          if 0xD800 ≤ first && first < 0xE000 then none
          let (content, rest) ← spanString? ('\\' :: 'u' :: e :: f :: g :: h :: rest)
          return (.ofNat first :: content, rest)
  | '\\' :: 'u' :: a :: b :: c :: d :: rest => do
      let first ← hexFour? a b c d
      if 0xD800 ≤ first && first < 0xE000 then none
      let (content, rest) ← spanString? rest
      return (.ofNat first :: content, rest)
  | '\\' :: c :: rest => do
      let first ← shortEscape? c
      let (content, rest) ← spanString? rest
      return (first :: content, rest)
  | c :: rest =>
      if c = '\\' || c.toNat < 32 then none
      else do
        let (content, rest) ← spanString? rest
        return (c :: content, rest)

/-- Blanks between tokens. -/
def isSpace (c : Char) : Bool :=
  c = ' ' || c = '\n' || c = '\t' || c = '\r'

/-- The token at the front of a text that does not begin with a blank. -/
def span? : List Char → Option (Token × List Char)
  | '[' :: rest => some (.openArray, rest)
  | ']' :: rest => some (.closeArray, rest)
  | '\x7b' :: rest => some (.openObject, rest)
  | '\x7d' :: rest => some (.closeObject, rest)
  | ',' :: rest => some (.comma, rest)
  | ':' :: rest => some (.colon, rest)
  | '"' :: rest => (spanString? rest).map fun (content, rest) =>
      (.literal (.string (.ofList content)), rest)
  | 't' :: 'r' :: 'u' :: 'e' :: rest => some (.literal (.bool true), rest)
  | 'f' :: 'a' :: 'l' :: 's' :: 'e' :: rest => some (.literal (.bool false), rest)
  | 'n' :: 'u' :: 'l' :: 'l' :: rest => some (.literal .null, rest)
  | cs => (spanNumber? cs).map fun (value, rest) => (.literal (.number value), rest)

/-- The tokens of a text, in order. Each takes at least one character away. -/
def ofChars? (cs : List Char) : Option (List Token) :=
  match cs with
  | [] => some []
  | c :: after =>
      if isSpace c then ofChars? after
      else match span? (c :: after) with
        | none => none
        | some (token, rest) =>
            if rest.length ≤ after.length then (ofChars? rest).map (token :: ·) else none
termination_by cs.length

end Token

end SearchCollection.Json
