import SearchCollection.Number.Decimal

/-! # Written forms of a double

A double is written with its shortest digits. Where the point stands, when an
exponent takes over and how the values that are no numbers are spelled differs
from place to place; a `FloatLayout` states one such choice, and `write` follows
it. `Binary64.writeTwoPlaces` rounds to two decimal places instead.
-/

namespace SearchCollection

/-- One way to write doubles. -/
structure FloatLayout where
  /-- The places of the leading digit for which the number is written without an exponent. -/
  positional : Int → Bool
  /-- Whether a whole number ends in `.0`. -/
  pointZero : Bool
  /-- Whether an exponent that is not negative has a plus sign. -/
  plus : Bool
  tie : Tie
  infinity : String
  negativeInfinity : String
  nan : String

namespace FloatLayout

/-- The layout of numbers in JSON texts. The three that are not finite have no number text there
and are written as `null`. -/
def json : FloatLayout where
  positional place := -5 ≤ place && place ≤ 15
  pointZero := true
  plus := true
  tie := .even
  infinity := "null"
  negativeInfinity := "null"
  nan := "null"

/-- The layout of numbers cast to text: never an exponent, and no point in a whole number. -/
def plain : FloatLayout where
  positional _ := true
  pointZero := false
  plus := false
  tie := .up
  infinity := "inf"
  negativeInfinity := "-inf"
  nan := "NaN"

/-- The layout of numbers in a declaration file read as texts. -/
def declared : FloatLayout where
  positional place := -5 ≤ place && place ≤ 15
  pointZero := true
  plus := false
  tie := .even
  infinity := ".inf"
  negativeInfinity := "-.inf"
  nan := ".nan"

/-- The layout of numbers in log messages. -/
def log : FloatLayout where
  positional place := -4 ≤ place && place ≤ 15
  pointZero := true
  plus := false
  tie := .up
  infinity := "inf"
  negativeInfinity := "-inf"
  nan := "NaN"

/-- Digits without an exponent: `digits * 10 ^ exponent`. -/
def writePositional (layout : FloatLayout) (digits : List Char) (exponent : Int) : List Char :=
  let places := digits.length + exponent
  if 0 ≤ exponent then
    digits ++ List.replicate exponent.toNat '0' ++ if layout.pointZero then ['.', '0'] else []
  else if 0 < places then
    digits.take places.toNat ++ '.' :: digits.drop places.toNat
  else
    '0' :: '.' :: List.replicate (-places).toNat '0' ++ digits

/-- Digits with an exponent, the point behind the first one. -/
def writeScientific (layout : FloatLayout) (digits : List Char) (place : Int) : List Char :=
  let point := if digits.length ≤ 1 then digits else digits.take 1 ++ '.' :: digits.drop 1
  let sign := if place < 0 then ['-'] else if layout.plus then ['+'] else []
  point ++ 'e' :: sign ++ Nat.toDigits 10 place.natAbs

/-- The written form of a double. -/
def write (layout : FloatLayout) (x : Binary64) : String :=
  if x.isNaN then layout.nan
  else if x.isInfinite then if x.isNegative then layout.negativeInfinity else layout.infinity
  else
    let decimal := x.shortest layout.tie
    let digits := Nat.toDigits 10 decimal.digits
    let place := digits.length - 1 + decimal.exponent
    let size :=
      if layout.positional place then layout.writePositional digits decimal.exponent
      else layout.writeScientific digits place
    .ofList (if x.isNegative then '-' :: size else size)

end FloatLayout

/-- A finite number that is not negative, with two decimal places, a tie going to the even
digit. -/
def Binary64.writeTwoPlaces (x : Binary64) : String :=
  let hundredths := roundEven (x.units * 100) Binary64.one
  let rest := hundredths % 100
  .ofList (Nat.toDigits 10 (hundredths / 100) ++ '.' ::
    (if rest < 10 then ['0'] else []) ++ Nat.toDigits 10 rest)

end SearchCollection
