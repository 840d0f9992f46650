import Mathlib.Algebra.Group.Nat.Defs
import SearchCollection.Proofs.Number.Numerals
import SearchCollection.Proofs.Time.Calendar
import SearchCollection.Time.Rfc3339

/-! # Reading the text of an instant

The text that an instant has in documents tells it without its fraction of a second, and a leap
second inside a minute as the second that comes next (`Instant.told`). What the text tells is what
is read from it, as long as the year has four digits (`Instant.read?_write`). Every number in the
text has a fixed count of digits and is read back by itself (`spanCount?_paddedDigits`).
-/

namespace SearchCollection

/-! ## Numbers of a fixed count of digits -/

section PaddedDigits

variable {width n : Nat}

/-- A number that fits is padded to the width. -/
theorem length_paddedDigits (positive : 0 < width) (small : n < 10 ^ width) :
    (paddedDigits width n).length = width := by
  have digits := (Nat.length_toDigits_le_iff (by decide : 1 < 10) positive).mpr small
  unfold paddedDigits
  rw [List.length_append, List.length_replicate, Nat.sub_add_cancel digits]

theorem isDigit_of_mem_paddedDigits {c : Char} (member : c ∈ paddedDigits width n) : c.isDigit := by
  rcases List.mem_append.mp member with zero | digit
  · rw [List.eq_of_mem_replicate zero]
    rfl
  · exact Nat.isDigit_of_mem_toDigits (by decide) (by decide) digit

/-- A padded number is read as itself. -/
theorem digitsValue_paddedDigits (width n : Nat) : digitsValue (paddedDigits width n) = n := by
  unfold paddedDigits
  rw [digitsValue_eq_ofDigitChars, Nat.ofDigitChars_append, Nat.ofDigitChars_replicate_zero,
    Nat.mul_zero, Nat.ofDigitChars_ten_toDigits]

/-- A number is read back from its digits, whatever follows them. -/
theorem spanCount?_paddedDigits (positive : 0 < width) (small : n < 10 ^ width) (rest : List Char) :
    spanCount? width (paddedDigits width n ++ rest) = some (n, rest) := by
  have length := length_paddedDigits positive small
  have front : (paddedDigits width n ++ rest).take width = paddedDigits width n :=
    List.take_left' length
  have back : (paddedDigits width n ++ rest).drop width = rest := List.drop_left' length
  have decimal : (paddedDigits width n).all Char.isDigit :=
    List.all_eq_true.mpr fun c member => isDigit_of_mem_paddedDigits member
  unfold spanCount?
  simp only [front, back, length, decimal, and_self, ↓reduceIte, digitsValue_paddedDigits]

end PaddedDigits

theorem after?_cons (c : Char) (rest : List Char) : after? c (c :: rest) = some rest :=
  if_pos rfl

namespace Date

/-- No month has more than thirty-one days. -/
theorem daysInMonth_le (year : Int) (month : Nat) : daysInMonth year month ≤ 31 := by
  unfold daysInMonth
  repeat' split
  all_goals omega

theorem daysInMonth_of_lt {month : Nat} (beyond : 12 < month) (year : Int) :
    daysInMonth year month = 0 := by
  unfold daysInMonth
  have none : ¬(1 ≤ month && month ≤ 12) := by simp; omega
  have short : ¬(month = 4 || month = 6 || month = 9 || month = 11) := by simp; omega
  rw [if_neg (by omega), if_neg short, if_neg none]

/-- A day that exists is of one of the twelve months and has two digits. -/
theorem Valid.bounds {date : Date} (valid : date.Valid) : date.month ≤ 12 ∧ date.day ≤ 31 := by
  obtain ⟨first, last⟩ := valid
  refine ⟨?_, Nat.le_trans last (daysInMonth_le date.year date.month)⟩
  rcases Nat.lt_or_ge 12 date.month with beyond | within
  · rw [daysInMonth_of_lt beyond] at last
    omega
  · exact within

end Date

namespace Instant

/-- The instant without its fraction of a second. A leap second stays one. -/
def truncated (instant : Instant) : Instant where
  seconds := instant.seconds
  nanos := instant.nanos / 1000000000 * 1000000000
  seconds_ge := instant.seconds_ge
  seconds_le := instant.seconds_le
  nanos_lt := by
    have few := instant.nanos_lt
    omega

/-- If the instant is in a leap second, then in one after the last second of a minute. -/
def LeapLast (instant : Instant) : Prop :=
  1000000000 ≤ instant.nanos → instant.seconds % 60 = 59

instance (instant : Instant) : Decidable instant.LeapLast :=
  inferInstanceAs (Decidable (_ → _))

/-- The instant that is told in whole seconds: a leap second inside a minute looks like the second
that comes next. -/
def told (instant : Instant) : Instant where
  seconds := if instant.LeapLast then instant.seconds else instant.seconds + 1
  nanos := if instant.LeapLast then instant.truncated.nanos else 0
  seconds_ge := by
    have above := instant.seconds_ge
    split <;> omega
  seconds_le := by
    have below := instant.seconds_le
    split
    · exact below
    · next stray =>
        unfold LeapLast at stray
        omega
  nanos_lt := by
    have few := instant.truncated.nanos_lt
    split <;> omega

section Told

variable {instant : Instant}

/-- Dropping the fraction keeps the second of the minute. -/
theorem second_truncated : instant.truncated.second = instant.second := by
  unfold second truncated
  dsimp only
  omega

/-- Dropping the fraction leaves none. -/
theorem fraction_truncated : instant.truncated.fraction = 0 :=
  Nat.mul_mod_left _ _

/-- An instant is told without its fraction, unless it is in a stray leap second. -/
theorem told_of_leapLast (last : instant.LeapLast) : instant.told = instant.truncated := by
  simp only [told, last, ↓reduceIte, truncated]

/-- An instant without a fraction is told as it is. -/
theorem told_of_whole (whole : instant.nanos = 0) : instant.told = instant := by
  have last : instant.LeapLast := by
    intro leap
    omega
  rw [told_of_leapLast last]
  cases instant
  subst whole
  simp [truncated]

/-- A stray leap second is told as the second after it. -/
theorem seconds_told_of_not_leapLast (stray : ¬instant.LeapLast) :
    instant.told.seconds = instant.seconds + 1 :=
  if_neg stray

/-- A stray leap second is told as a whole second. -/
theorem nanos_told_of_not_leapLast (stray : ¬instant.LeapLast) : instant.told.nanos = 0 :=
  if_neg stray

/-- Dropping the fraction does not move a leap second. -/
theorem leapLast_truncated (last : instant.LeapLast) : instant.truncated.LeapLast := by
  unfold LeapLast truncated at *
  dsimp only
  omega

end Told

variable (instant : Instant)

/-- What is told has no leap second inside a minute. -/
theorem leapLast_told : instant.told.LeapLast := by
  by_cases last : instant.LeapLast
  · rw [told_of_leapLast last]
    exact leapLast_truncated last
  · intro leap
    rw [nanos_told_of_not_leapLast last] at leap
    omega

/-- What is told is the instant that is made from its counts. -/
theorem of?_told : of? instant.told.seconds instant.told.nanos = some instant.told := by
  unfold of?
  rw [dif_pos ⟨⟨instant.told.seconds_ge, instant.told.seconds_le⟩, instant.told.nanos_lt,
    instant.leapLast_told⟩]

/-- The time of day in seconds, where a leap second after the last second of a minute counts as
that second. -/
theorem timeOfDay_eq :
    ((instant.hour * 3600 + instant.minute * 60 + min instant.second 59 : Nat) : Int) =
      instant.seconds % 86400 + (instant.told.seconds - instant.seconds) := by
  have few := instant.nanos_lt
  unfold hour minute second
  by_cases last : instant.LeapLast
  · rw [told_of_leapLast last]
    unfold LeapLast at last
    unfold truncated
    dsimp only
    omega
  · rw [seconds_told_of_not_leapLast last]
    unfold LeapLast at last
    omega

/-- The numbers of the time of day are in the ranges that are read. -/
theorem second_bounds : instant.hour ≤ 23 ∧ instant.minute ≤ 59 ∧ instant.second ≤ 60 := by
  have few := instant.nanos_lt
  unfold hour minute second
  omega

/-- The second 60 is written exactly where a leap second is told. -/
theorem leap_eq : (if instant.second = 60 then 1000000000 else 0) = instant.told.nanos := by
  have few := instant.nanos_lt
  unfold second
  by_cases last : instant.LeapLast
  · rw [told_of_leapLast last]
    unfold LeapLast at last
    unfold truncated
    dsimp only
    split <;> omega
  · rw [nanos_told_of_not_leapLast last]
    unfold LeapLast at last
    exact if_neg (by omega)

/-- The date and the time of day of an instant are those of the instant that is told. -/
theorem ofLocal?_date : ofLocal? instant.date instant.hour instant.minute instant.second 0 0 =
    some instant.told := by
  have valid : instant.date.Valid := Date.valid_ofDays _
  have days : instant.date.toDays = instant.seconds / 86400 := Date.toDays_ofDays _
  have seconds : instant.date.toDays * 86400 + (instant.hour * 3600 + instant.minute * 60 +
      min instant.second 59 : Nat) - 0 = instant.told.seconds := by
    rw [days, timeOfDay_eq]
    omega
  unfold ofLocal?
  rw [if_pos ⟨valid, instant.second_bounds⟩, seconds, Nat.zero_add, leap_eq, of?_told]

/-- **What the text of an instant tells is read back.** -/
theorem read?_write (low : 0 ≤ instant.date.year) (high : instant.date.year ≤ 9999) :
    read? instant.write = some instant.told := by
  obtain ⟨month, day⟩ := (Date.valid_ofDays (instant.seconds / 86400)).bounds
  obtain ⟨hour, minute, second⟩ := instant.second_bounds
  have year : (instant.date.year.toNat : Int) = instant.date.year := by omega
  have spanYear := @spanCount?_paddedDigits 4 instant.date.year.toNat (by decide) (by omega)
  have spanMonth := @spanCount?_paddedDigits 2 instant.date.month (by decide)
    (Nat.lt_of_le_of_lt month (by decide))
  have spanDay := @spanCount?_paddedDigits 2 instant.date.day (by decide)
    (Nat.lt_of_le_of_lt day (by decide))
  have spanHour := @spanCount?_paddedDigits 2 instant.hour (by decide) (by omega)
  have spanMinute := @spanCount?_paddedDigits 2 instant.minute (by decide) (by omega)
  have spanSecond := @spanCount?_paddedDigits 2 instant.second (by decide) (by omega)
  have noFraction : spanFraction? ['Z'] = some (0, ['Z']) := rfl
  have universal : readOffset? ['Z'] = some 0 := rfl
  unfold read? write writeSeconds Date.write Date.writeYear
  rw [if_pos ⟨low, high⟩, String.toList_ofList]
  simp only [List.append_assoc, List.cons_append, spanYear, spanMonth, spanDay, spanHour,
    spanMinute, spanSecond, after?_cons, noFraction, universal, year, Option.bind_eq_bind,
    Option.bind_some, Option.orElse_eq_orElse, Option.orElse_some]
  exact instant.ofLocal?_date

end Instant

end SearchCollection
