import SearchCollection.Time.Instant
import SearchCollection.Number.Reading

/-! # Instants as texts

An instant is written as its date and time of day in universal time: `write`
gives whole seconds, as documents have them, and `writeExact` the fraction too,
as log messages have it. `read?` reads a date, a `T` or a blank, a time of day
with an optional fraction, and the offset from universal time, which is a `Z` or
a sign, hours and minutes. The second 60 is a leap second.
-/

namespace SearchCollection

/-- A number with zeros in front of it up to a count of digits. -/
def paddedDigits (width n : Nat) : List Char :=
  let digits := Nat.toDigits 10 n
  List.replicate (width - digits.length) '0' ++ digits

/-- A year of four digits, or a sign and at least four digits where they do not suffice. -/
def Date.writeYear (year : Int) : List Char :=
  if 0 ≤ year ∧ year ≤ 9999 then paddedDigits 4 year.toNat
  else (if year < 0 then '-' else '+') :: paddedDigits 4 year.natAbs

def Date.write (date : Date) : List Char :=
  Date.writeYear date.year ++ '-' :: paddedDigits 2 date.month ++ '-' :: paddedDigits 2 date.day

/-- The number of exactly `count` digits at the front, and what follows. -/
def spanCount? (count : Nat) (cs : List Char) : Option (Nat × List Char) :=
  let digits := cs.take count
  if digits.length = count ∧ digits.all Char.isDigit then
    some (digitsValue digits, cs.drop count)
  else none

/-- What follows the given character at the front. -/
def after? (c : Char) : List Char → Option (List Char)
  | [] => none
  | first :: rest => if first = c then some rest else none

namespace Instant

/-- The date and the time of day to the second. -/
def writeSeconds (instant : Instant) : List Char :=
  instant.date.write ++ 'T' :: paddedDigits 2 instant.hour ++ ':' :: paddedDigits 2 instant.minute
    ++ ':' :: paddedDigits 2 instant.second

/-- The text of an instant in documents; the fraction is left out. -/
def write (instant : Instant) : String :=
  .ofList (instant.writeSeconds ++ ['Z'])

/-- The fraction of a second with three, six or nine digits, the fewest that are exact. -/
def writeFraction (nanos : Nat) : List Char :=
  if nanos = 0 then []
  else if nanos % 1000000 = 0 then '.' :: paddedDigits 3 (nanos / 1000000)
  else if nanos % 1000 = 0 then '.' :: paddedDigits 6 (nanos / 1000)
  else '.' :: paddedDigits 9 nanos

/-- The text of an instant with its fraction. -/
def writeExact (instant : Instant) : String :=
  .ofList (instant.writeSeconds ++ writeFraction instant.fraction ++ ['Z'])

/-- The nanoseconds of the digits behind a point; those after the ninth do not count. -/
def fractionValue (digits : List Char) : Nat :=
  digitsValue ((digits ++ List.replicate 9 '0').take 9)

/-- The fraction at the front, if there is a point, and what follows. -/
def spanFraction? : List Char → Option (Nat × List Char)
  | '.' :: rest =>
      let (digits, rest) := spanDigits rest
      if digits.isEmpty then none else some (fractionValue digits, rest)
  | cs => some (0, cs)

/-- The seconds by which the local time is ahead of universal time. The minus sign may be the
mathematical one. -/
def readOffset? : List Char → Option Int
  | [] => none
  | sign :: rest =>
      if sign = 'Z' || sign = 'z' then if rest.isEmpty then some 0 else none
      else if sign = '+' || sign = '-' || sign = '\u2212' then do
        let (hours, rest) ← spanCount? 2 rest
        let rest ← after? ':' rest
        let (minutes, rest) ← spanCount? 2 rest
        if 23 < hours || 59 < minutes || !rest.isEmpty then none
        let size : Int := hours * 3600 + minutes * 60
        return if sign = '+' then size else -size
      else none

/-- The instant of a local date and time of day that is `offset` seconds ahead of universal
time. -/
def ofLocal? (date : Date) (hour minute second nanos : Nat) (offset : Int) : Option Instant :=
  if date.Valid ∧ hour ≤ 23 ∧ minute ≤ 59 ∧ second ≤ 60 then
    Instant.of? (date.toDays * 86400 + (hour * 3600 + minute * 60 + min second 59 : Nat) - offset)
      (nanos + if second = 60 then 1000000000 else 0)
  else none

/-- The instant that a text stands for, if it is one. -/
def read? (text : String) : Option Instant := do
  let (year, rest) ← spanCount? 4 text.toList
  let rest ← after? '-' rest
  let (month, rest) ← spanCount? 2 rest
  let rest ← after? '-' rest
  let (day, rest) ← spanCount? 2 rest
  let rest ← after? 'T' rest <|> after? 't' rest <|> after? ' ' rest
  let (hour, rest) ← spanCount? 2 rest
  let rest ← after? ':' rest
  let (minute, rest) ← spanCount? 2 rest
  let rest ← after? ':' rest
  let (second, rest) ← spanCount? 2 rest
  let (nanos, rest) ← spanFraction? rest
  let offset ← readOffset? rest
  ofLocal? ⟨year, month, day⟩ hour minute second nanos offset

end Instant

end SearchCollection
