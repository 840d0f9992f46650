import SearchCollection.Time.Date

/-! # Instants

A point in time is a count of seconds since the beginning of 1970 and the
nanoseconds after that second. A leap second has no second of its own: it is the
second before it with a thousand million nanoseconds or more. An instant that is
made from counts has one after the last second of a minute only (`of?`), but
nothing keeps the nanoseconds of another instant below a thousand million. The
seconds are those of the calendar years -262143 to 262142.
-/

namespace SearchCollection

/-- A point in time. -/
structure Instant where
  seconds : Int
  nanos : Nat
  seconds_ge : -8334601228800 ≤ seconds
  seconds_le : seconds ≤ 8210266876799
  nanos_lt : nanos < 2000000000
deriving DecidableEq

namespace Instant

/-- The instant that is made from counts of seconds and nanoseconds, if they are in range and a
leap second among them follows the last second of a minute. -/
def of? (seconds : Int) (nanos : Nat) : Option Instant :=
  if h : (-8334601228800 ≤ seconds ∧ seconds ≤ 8210266876799) ∧
      nanos < 2000000000 ∧ (1000000000 ≤ nanos → seconds % 60 = 59) then
    some ⟨seconds, nanos, h.1.1, h.1.2, h.2.1⟩
  else none

/-- The seconds as a 64-bit integer, which they always fit. -/
def toInt64 (instant : Instant) : Int64 :=
  .ofInt instant.seconds

/-- The 64-bit integer is the count of seconds. -/
theorem toInt_toInt64 (instant : Instant) : instant.toInt64.toInt = instant.seconds := by
  have low := instant.seconds_ge
  have high := instant.seconds_le
  exact Int64.toInt_ofInt_of_le (by omega) (by omega)

/-- The calendar day of the instant. -/
def date (instant : Instant) : Date :=
  .ofDays (instant.seconds / 86400)

/-- The hour of the day. -/
def hour (instant : Instant) : Nat :=
  (instant.seconds % 86400 / 3600).toNat

/-- The minute of the hour. -/
def minute (instant : Instant) : Nat :=
  (instant.seconds % 3600 / 60).toNat

/-- The second of the minute, one more in a leap second, so that it is sixty after the last. -/
def second (instant : Instant) : Nat :=
  (instant.seconds % 60).toNat + instant.nanos / 1000000000

/-- The nanoseconds after the second. -/
def fraction (instant : Instant) : Nat :=
  instant.nanos % 1000000000

end Instant

end SearchCollection
