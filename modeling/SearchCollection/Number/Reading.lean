import SearchCollection.Number.Binary64

/-! # Reading numbers from text

Readers of a whole text: `readInt64` takes a sign and decimal digits that fit 64
bits, `readDigits` takes digits in another base, and `readFloat` takes what a
double may be written as, with an optional fraction and exponent, or one of the
words for infinity and for no number in any mix of letter cases. Nothing may
stand around the number.
-/

namespace SearchCollection

/-- The value of decimal digits, the first one most significant. -/
def digitsValue (digits : List Char) : Nat :=
  digits.foldl (fun value digit => value * 10 + (digit.toNat - '0'.toNat)) 0

/-- The value of a hexadecimal digit. -/
def hexDigit? (c : Char) : Option Nat :=
  if c.isDigit then some (c.toNat - '0'.toNat)
  else if 'a' ≤ c && c ≤ 'f' then some (c.toNat - 'a'.toNat + 10)
  else if 'A' ≤ c && c ≤ 'F' then some (c.toNat - 'A'.toNat + 10)
  else none

/-- The value of one or more digits in a base of at most sixteen. -/
def readDigits (base : Nat) (cs : List Char) : Option Nat :=
  if cs.isEmpty then none
  else cs.foldlM (fun value c => (hexDigit? c).bind fun digit =>
    if digit < base then some (value * base + digit) else none) 0

/-- The decimal digits at the front, and what follows them. -/
def spanDigits (cs : List Char) : List Char × List Char :=
  cs.span Char.isDigit

/-- The optional sign at the front, and what follows it. -/
def spanSign : List Char → Bool × List Char
  | '-' :: rest => (true, rest)
  | '+' :: rest => (false, rest)
  | cs => (false, cs)

/-- A whole number of one or more digits with an optional sign. -/
def readInt (cs : List Char) : Option Int :=
  let (negative, rest) := spanSign cs
  if rest.isEmpty || !rest.all Char.isDigit then none
  else
    let size : Int := digitsValue rest
    some (if negative then -size else size)

/-- A whole number that fits 64 bits. -/
def readInt64 (cs : List Char) : Option Int64 :=
  match readInt cs with
  | some n =>
      if Int64.minValue.toInt ≤ n ∧ n ≤ Int64.maxValue.toInt then some (.ofInt n) else none
  | none => none

/-- The exponent of ten at the end of a number: absent, or `e`, an optional sign and digits. -/
def readExponent : List Char → Option Int
  | [] => some 0
  | c :: rest => if c = 'e' || c = 'E' then readInt rest else none

/-- A decimal number with at least one digit before or after its point. -/
def readDecimal (negative : Bool) (cs : List Char) : Option Binary64 :=
  let (whole, rest) := spanDigits cs
  let (fraction, rest) := match rest with
    | '.' :: rest => spanDigits rest
    | rest => ([], rest)
  if whole.isEmpty && fraction.isEmpty then none
  else (readExponent rest).map fun exponent =>
    .ofDecimal negative (digitsValue (whole ++ fraction)) (exponent - fraction.length)

/-- A double as it may be written in a text. -/
def readFloat (cs : List Char) : Option Binary64 :=
  let (negative, rest) := spanSign cs
  let word := String.ofList (rest.map Char.toLower)
  if word = "inf" || word = "infinity" then some (.infinity negative)
  else if word = "nan" then some (.nan negative)
  else readDecimal negative rest

end SearchCollection
