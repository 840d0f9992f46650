/-! # Calendar dates

Dates of the Gregorian calendar, continued backwards and forwards without limit,
and their day numbers counted from 1 January 1970. The calendar repeats after an
era of 400 years, or 146097 days. Inside an era the years are counted from March
on, so that the leap day is the last day of a year and the lengths of the months
before a date follow one formula.
-/

namespace SearchCollection

/-- A date; the months and days count from one. -/
structure Date where
  year : Int
  month : Nat
  day : Nat
deriving DecidableEq

namespace Date

/-- Whether a year has a 29 February. -/
def isLeapYear (year : Int) : Bool :=
  year % 4 = 0 && (year % 100 ≠ 0 || year % 400 = 0)

/-- The days of a month; zero for what is no month. -/
def daysInMonth (year : Int) (month : Nat) : Nat :=
  if month = 2 then if isLeapYear year then 29 else 28
  else if month = 4 || month = 6 || month = 9 || month = 11 then 30
  else if 1 ≤ month && month ≤ 12 then 31
  else 0

/-- The day exists in the calendar. -/
def Valid (date : Date) : Prop :=
  1 ≤ date.day ∧ date.day ≤ daysInMonth date.year date.month

instance (date : Date) : Decidable date.Valid :=
  inferInstanceAs (Decidable (_ ∧ _))

/-- The days from 1 March of the year 0 to 1 January 1970. -/
def epoch : Int := 719468

/-- The days before a month in a year that begins in March. -/
def daysBefore (monthFromMarch : Int) : Int :=
  (153 * monthFromMarch + 2) / 5

/-- The day number of a date, zero for 1 January 1970. -/
def toDays (date : Date) : Int :=
  let year := if date.month ≤ 2 then date.year - 1 else date.year
  let monthFromMarch : Int := (date.month + 9) % 12
  let yearOfEra := year % 400
  year / 400 * 146097 + (yearOfEra * 365 + yearOfEra / 4 - yearOfEra / 100)
    + daysBefore monthFromMarch + (date.day - 1) - epoch

/-- The date of a day number. -/
def ofDays (days : Int) : Date :=
  let fromMarch := days + epoch
  let era := fromMarch / 146097
  let dayOfEra := fromMarch % 146097
  let yearOfEra := (dayOfEra - dayOfEra / 1460 + dayOfEra / 36524 - dayOfEra / 146096) / 365
  let dayOfYear := dayOfEra - (yearOfEra * 365 + yearOfEra / 4 - yearOfEra / 100)
  let monthFromMarch := (5 * dayOfYear + 2) / 153
  let month := (monthFromMarch + 2) % 12 + 1
  let year := era * 400 + yearOfEra
  { year := if month ≤ 2 then year + 1 else year
    month := month.toNat
    day := (dayOfYear - daysBefore monthFromMarch + 1).toNat }

end Date

end SearchCollection
