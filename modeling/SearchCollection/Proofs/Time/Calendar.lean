import SearchCollection.Time.Date

/-! # Days and dates

Every day number has a date that exists in the calendar (`Date.valid_ofDays`), and the day number
of that date is the one it started from (`Date.toDays_ofDays`). A day is found by the era, century,
cycle of four years, and year that it falls in, all counted from a March on (`EraDay`): a century
lacks the last day of its last cycle, unless it ends the era.
-/

namespace SearchCollection

/-- A day of an era of 400 years, which begins in March. Only the last year of a cycle has a 366th
day, and the last cycle of a century only in the last century. -/
structure EraDay where
  century : Int
  cycle : Int
  year : Int
  day : Int
  century_mem : 0 ≤ century ∧ century ≤ 3
  cycle_mem : 0 ≤ cycle ∧ cycle ≤ 24
  year_mem : 0 ≤ year ∧ year ≤ 3
  day_mem : 0 ≤ day ∧ day ≤ 365
  leap : day = 365 → year = 3 ∧ (cycle = 24 → century = 3)

namespace EraDay

/-- The days of the era before this one. -/
def number (place : EraDay) : Int :=
  36524 * place.century + 1461 * place.cycle + 365 * place.year + place.day

/-- The years of the era before that of the day. -/
def yearOfEra (place : EraDay) : Int :=
  100 * place.century + 4 * place.cycle + place.year

/-- The month of the day, zero for March. -/
def month (place : EraDay) : Int :=
  (5 * place.day + 2) / 153

/-- Every number below the length of an era is that of a day in it. -/
theorem exists_number_eq {dayOfEra : Int} (start : 0 ≤ dayOfEra) (stop : dayOfEra < 146097) :
    ∃ place : EraDay, place.number = dayOfEra := by
  have hundreds : ∃ century rest : Int, (0 ≤ century ∧ century ≤ 3) ∧ 0 ≤ rest ∧
      (rest < 36524 ∨ rest = 36524 ∧ century = 3) ∧ 36524 * century + rest = dayOfEra :=
    ⟨min (dayOfEra / 36524) 3, dayOfEra - 36524 * min (dayOfEra / 36524) 3, by omega⟩
  obtain ⟨century, rest, centuries, first, last, rfl⟩ := hundreds
  have years : ∃ year day : Int, (0 ≤ year ∧ year ≤ 3) ∧ (0 ≤ day ∧ day ≤ 365) ∧
      (day = 365 → year = 3) ∧ 365 * year + day = rest % 1461 :=
    ⟨min (rest % 1461 / 365) 3, rest % 1461 - 365 * min (rest % 1461 / 365) 3, by omega⟩
  obtain ⟨year, day, years, days, leap, split⟩ := years
  refine ⟨⟨century, rest / 1461, year, day, centuries, by omega, years, days, by omega⟩, ?_⟩
  unfold number
  dsimp only
  omega

variable (place : EraDay)

theorem number_mem : 0 ≤ place.number ∧ place.number < 146097 := by
  obtain ⟨century, cycle, year, day, centuries, cycles, years, days, leap⟩ := place
  unfold number
  dsimp only
  omega

theorem yearOfEra_mem : 0 ≤ place.yearOfEra ∧ place.yearOfEra < 400 := by
  obtain ⟨century, cycle, year, day, centuries, cycles, years, days, leap⟩ := place
  unfold yearOfEra
  dsimp only
  omega

/-- The year of a day, found without looking for the century and the cycle. -/
theorem yearOfEra_eq : (place.number - place.number / 1460 + place.number / 36524 -
    place.number / 146096) / 365 = place.yearOfEra := by
  obtain ⟨century, cycle, year, day, centuries, cycles, years, days, leap⟩ := place
  unfold number yearOfEra
  dsimp only
  generalize rest : 365 * year + day = dayOfCycle
  have late : (24 * century + cycle + dayOfCycle) / 1460 = 0 ∨
      (24 * century + cycle + dayOfCycle) / 1460 = 1 ∧ year = 3 ∧ 0 < day := by
    omega
  have fours : (36524 * century + 1461 * cycle + 365 * year + day) / 1460 =
      25 * century + cycle + (24 * century + cycle + dayOfCycle) / 1460 := by
    omega
  have within : 1461 * cycle + dayOfCycle < 36524 ∨
      1461 * cycle + dayOfCycle = 36524 ∧ century = 3 := by
    omega
  have hundreds : (36524 * century + 1461 * cycle + 365 * year + day) / 36524 -
      (36524 * century + 1461 * cycle + 365 * year + day) / 146096 = century := by
    have sum : 36524 * century + 1461 * cycle + 365 * year + day =
        36524 * century + (1461 * cycle + dayOfCycle) := by
      omega
    rw [sum]
    rcases within with within | ⟨last, rfl⟩
    · have first : (36524 * century + (1461 * cycle + dayOfCycle)) / 36524 = century := by omega
      have second : (36524 * century + (1461 * cycle + dayOfCycle)) / 146096 = 0 := by omega
      rw [first, second, Int.sub_zero]
    · rw [last]
      decide
  rw [fours, Int.add_sub_assoc, hundreds]
  omega

/-- What is left of a day when the years before it are taken away. -/
theorem day_eq : place.number - (place.yearOfEra * 365 + place.yearOfEra / 4 -
    place.yearOfEra / 100) = place.day := by
  obtain ⟨century, cycle, year, day, centuries, cycles, years, days, leap⟩ := place
  unfold number yearOfEra
  dsimp only
  omega

theorem month_mem : 0 ≤ place.month ∧ place.month ≤ 11 := by
  have days := place.day_mem
  unfold month
  omega

/-- The day of the month, counted from zero. -/
theorem daysBefore_le : Date.daysBefore place.month ≤ place.day ∧
    place.day < Date.daysBefore (place.month + 1) := by
  have days := place.day_mem
  unfold Date.daysBefore month
  omega

end EraDay

namespace Date

/-- Every day is one of some era. -/
theorem exists_eraDay (days : Int) :
    ∃ era : Int, ∃ place : EraDay, days = era * 146097 + place.number - epoch := by
  have start : 0 ≤ (days + epoch) % 146097 := by omega
  have stop : (days + epoch) % 146097 < 146097 := by omega
  obtain ⟨place, number⟩ := EraDay.exists_number_eq start stop
  exact ⟨(days + epoch) / 146097, place, by omega⟩

/-- The date of a day, whose January and February belong to the next year. -/
theorem ofDays_eq (era : Int) (place : EraDay) :
    ofDays (era * 146097 + place.number - epoch) =
      { year := era * 400 + place.yearOfEra + if 10 ≤ place.month then 1 else 0
        month := ((place.month + 2) % 12 + 1).toNat
        day := (place.day - daysBefore place.month + 1).toNat } := by
  have within := place.number_mem
  have months := place.month_mem
  have fromMarch : era * 146097 + place.number - epoch + epoch = era * 146097 + place.number := by
    omega
  have eras : (era * 146097 + place.number) / 146097 = era := by omega
  have rest : (era * 146097 + place.number) % 146097 = place.number := by omega
  unfold ofDays
  simp only [fromMarch, eras, rest, place.yearOfEra_eq, place.day_eq]
  rw [← EraDay.month]
  congr 1
  by_cases late : 10 ≤ place.month
  · rw [if_pos late, if_pos (by omega)]
  · rw [if_neg late, if_neg (by omega), Int.add_zero]

/-- **The date of a day is of that day.** -/
theorem toDays_ofDays (days : Int) : (ofDays days).toDays = days := by
  obtain ⟨era, place, rfl⟩ := exists_eraDay days
  have years := place.yearOfEra_mem
  have months := place.month_mem
  have monthDays := place.daysBefore_le
  have day := place.day_eq
  rw [ofDays_eq]
  unfold toDays
  dsimp only
  have year : (if ((place.month + 2) % 12 + 1).toNat ≤ 2 then
      era * 400 + place.yearOfEra + (if 10 ≤ place.month then 1 else 0) - 1
      else era * 400 + place.yearOfEra + (if 10 ≤ place.month then 1 else 0)) =
      era * 400 + place.yearOfEra := by
    by_cases late : 10 ≤ place.month
    · rw [if_pos late, if_pos (by omega), Int.add_sub_cancel]
    · rw [if_neg late, if_neg (by omega), Int.add_zero]
  have month : ((((place.month + 2) % 12 + 1).toNat : Int) + 9) % 12 = place.month := by omega
  have yearOfEra : (era * 400 + place.yearOfEra) % 400 = place.yearOfEra := by omega
  have eras : (era * 400 + place.yearOfEra) / 400 = era := by omega
  rw [year, month, yearOfEra, eras]
  omega

/-- The days of every month but February follow one formula. -/
theorem daysInMonth_eq {month : Int} (months : 0 ≤ month ∧ month < 11) (year : Int) :
    (daysInMonth year ((month + 2) % 12 + 1).toNat : Int) =
      daysBefore (month + 1) - daysBefore month := by
  have cases : month = 0 ∨ month = 1 ∨ month = 2 ∨ month = 3 ∨ month = 4 ∨ month = 5 ∨ month = 6 ∨
      month = 7 ∨ month = 8 ∨ month = 9 ∨ month = 10 := by
    omega
  rcases cases with rfl | rfl | rfl | rfl | rfl | rfl | rfl | rfl | rfl | rfl | rfl <;> rfl

/-- The year that follows a 366th day has a 29 February. -/
theorem isLeapYear_of_day (era : Int) {place : EraDay} (last : place.day = 365) :
    isLeapYear (era * 400 + place.yearOfEra + 1) := by
  obtain ⟨century, cycle, year, day, centuries, cycles, years, days, leap⟩ := place
  obtain ⟨final, cycleLast⟩ := leap last
  have four : (era * 400 + (100 * century + 4 * cycle + year) + 1) % 4 = 0 := by omega
  have hundred : (era * 400 + (100 * century + 4 * cycle + year) + 1) % 100 ≠ 0 ∨
      (era * 400 + (100 * century + 4 * cycle + year) + 1) % 400 = 0 := by
    by_cases ends : cycle = 24
    · have centuryLast := cycleLast ends
      omega
    · omega
  unfold isLeapYear EraDay.yearOfEra
  dsimp only
  rw [decide_eq_true four, Bool.true_and, Bool.or_eq_true, decide_eq_true_eq, decide_eq_true_eq]
  exact hundred

/-- **The date of a day exists.** -/
theorem valid_ofDays (days : Int) : (ofDays days).Valid := by
  obtain ⟨era, place, rfl⟩ := exists_eraDay days
  have months := place.month_mem
  have dayOfYear := place.day_mem
  have monthDays := place.daysBefore_le
  rw [ofDays_eq]
  unfold Valid
  dsimp only
  refine ⟨by omega, ?_⟩
  by_cases february : place.month = 11
  · have before : daysBefore 11 = 337 := rfl
    rw [february] at monthDays ⊢
    rw [if_pos (by decide)]
    change _ ≤ if isLeapYear _ then 29 else 28
    by_cases last : place.day = 365
    · rw [if_pos (isLeapYear_of_day era last)]
      omega
    · split <;> omega
  · rw [← Int.ofNat_le, daysInMonth_eq (by omega)]
    omega

/-! ## Years of four digits -/

/-- The years of four digits are the days from 1 January 0 to 31 December 9999. -/
theorem year_ofDays_mem_iff (days : Int) :
    (0 ≤ (ofDays days).year ∧ (ofDays days).year ≤ 9999) ↔ -719528 ≤ days ∧ days ≤ 2932896 := by
  obtain ⟨era, place, rfl⟩ := exists_eraDay days
  have dayOfYear := place.day_mem
  have years := place.yearOfEra_mem
  have split := place.day_eq
  have late : 10 ≤ place.month ↔ 306 ≤ place.day := by
    unfold EraDay.month
    omega
  rw [ofDays_eq]
  unfold epoch
  dsimp only
  -- The first and the last year lie in eras that they share with other years.
  have eras : era ≤ -2 ∨ era = -1 ∨ 0 ≤ era ∧ era ≤ 23 ∨ era = 24 ∨ 25 ≤ era := by omega
  by_cases after : 306 ≤ place.day
  · rw [if_pos (late.mpr after)]
    rcases eras with below | rfl | within | rfl | above <;> omega
  · rw [if_neg (mt late.mp after)]
    rcases eras with below | rfl | within | rfl | above <;> omega

end Date

end SearchCollection
