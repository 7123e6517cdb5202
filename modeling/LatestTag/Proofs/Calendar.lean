import LatestTag.Time.Calendar
import Mathlib.Order.SuccPred.IntervalSucc
import Mathlib.Tactic.IntervalCases

/-!
# Days and dates

A date is found from the number of a day by guessing its year. This file shows that the guess is
always right, so that dates and days stand for each other:

> `isValid_ofDays`: every day has a date of the calendar.
> `toDays_ofDays`: the date of a day is that day.

Both hold of all days, before the year zero as well. Years begin in March here, so that a leap day
is the last day of its year; `yearStart` is the first day of such a year. Within a cycle of 400
years, `evenDay` takes the leap days out of the number of a day as well as it can, and the year is
what is left in units of 365. As `evenDay` never falls (`evenDay_le_evenDay`), it is enough to look
at the first and the last day of each year of one cycle (`evenDay_yearStart`).
-/

namespace LatestTag.Date

/-! ## Years -/

/-- The days from the first of March of the year zero to the first of March of a year. -/
def yearStart (year : Int) : Int := 365 * year + year / 4 - year / 100 + year / 400

/-- The number of days of the year that begins in March. -/
def daysInYear (year : Int) : Int := if isLeapYear (year + 1) then 366 else 365

theorem isLeapYear_iff (year : Int) : isLeapYear year = true ↔
    year % 4 = 0 ∧ (year % 100 ≠ 0 ∨ year % 400 = 0) := by
  simp [isLeapYear]

theorem daysInYear_le (year : Int) : daysInYear year ≤ 366 := by
  unfold daysInYear
  split
  all_goals omega

theorem yearStart_succ (year : Int) : yearStart (year + 1) = yearStart year + daysInYear year := by
  unfold yearStart daysInYear
  split
  next hleap =>
    have := (isLeapYear_iff _).1 hleap
    omega
  next hleap =>
    have := mt (isLeapYear_iff _).2 hleap
    omega

theorem yearStart_add_cycles (cycles year : Int) :
    yearStart (cycles * 400 + year) = cycles * daysInCycle + yearStart year := by
  unfold yearStart daysInCycle
  omega

theorem daysInYear_add_cycles (cycles year : Int) :
    daysInYear (cycles * 400 + year) = daysInYear year := by
  have hnext := yearStart_succ (cycles * 400 + year)
  rw [Int.add_assoc, yearStart_add_cycles, yearStart_add_cycles, yearStart_succ] at hnext
  omega

/-! ## The year of a day -/

/-- The number of a day in its cycle, without the leap days before it as far as they can be told
from that number. -/
def evenDay (day : Int) : Int := day - day / 1460 + day / 36524 - day / 146096

theorem evenDay_le_evenDay {day later : Int} (h : day ≤ later) : evenDay day ≤ evenDay later := by
  refine monotone_int_of_le_succ (fun day => ?_) h
  unfold evenDay
  omega

/-- The first day of a year is not before it, and the last one not behind it. -/
theorem evenDay_yearStart : ∀ year : Nat, year < 400 →
    365 * (year : Int) ≤ evenDay (yearStart year) ∧
      evenDay (yearStart (year + 1) - 1) < 365 * (year + 1) := by
  decide +kernel

/-- **The guess is right**: the day lies in the year that it is taken to lie in. -/
theorem exists_yearOfCycle {day : Int} (hpos : 0 ≤ day) (hlt : day < daysInCycle) :
    ∃ year : Nat, year < 400 ∧ evenDay day / 365 = year ∧ yearStart year ≤ day ∧
      day < yearStart (year + 1) := by
  unfold daysInCycle at hlt
  obtain ⟨year, hyear⟩ : ∃ year : Nat, evenDay day / 365 = year := by
    refine ⟨(evenDay day / 365).toNat, ?_⟩
    unfold evenDay
    omega
  have hbound : year < 400 := by
    unfold evenDay at hyear
    omega
  refine ⟨year, hbound, hyear, ?_, ?_⟩
  · -- before that year the guess would be an earlier one
    by_contra hearly
    cases year with
    | zero =>
      have hzero : yearStart (0 : Nat) = 0 := rfl
      omega
    | succ year =>
      push_cast at *
      have hmono : evenDay day ≤ evenDay (yearStart (year + 1) - 1) :=
        evenDay_le_evenDay (by omega)
      have := (evenDay_yearStart year (by omega)).2
      omega
  · -- and behind it a later one, but for the last year of the cycle, which ends with it
    by_contra hlate
    by_cases hlast : year = 399
    · subst hlast
      have hend : yearStart ((399 : Nat) + 1) = 146097 := rfl
      omega
    · have hmono : evenDay (yearStart ((year + 1 : Nat) : Int)) ≤ evenDay day :=
        evenDay_le_evenDay (by push_cast; omega)
      have := (evenDay_yearStart (year + 1) (by omega)).1
      push_cast at *
      omega

/-! ## The date of a day -/

/-- The date of a day in the year that begins in March. -/
def inYear (year dayOfYear : Int) : Date :=
  let monthFromMarch := (5 * dayOfYear + 2) / 153
  let month := (monthFromMarch + 2) % 12 + 1
  { year := if month ≤ 2 then year + 1 else year
    month := month.toNat
    day := (dayOfYear - (153 * monthFromMarch + 2) / 5 + 1).toNat }

theorem toDays_inYear {year dayOfYear : Int} (hpos : 0 ≤ dayOfYear) (hlt : dayOfYear < 366) :
    (inYear year dayOfYear).toDays = yearStart year + dayOfYear - epochOffset := by
  unfold inYear toDays yearStart daysInCycle
  dsimp only
  generalize hmonth : (5 * dayOfYear + 2) / 153 = month
  have hmin : 0 ≤ month := by omega
  have hmax : month ≤ 11 := by omega
  interval_cases month
  all_goals
    simp
    omega

theorem isValid_inYear {year dayOfYear : Int} (hpos : 0 ≤ dayOfYear)
    (hlt : dayOfYear < daysInYear year) : (inYear year dayOfYear).IsValid := by
  have hlast := daysInYear_le year
  unfold inYear IsValid
  dsimp only
  generalize hmonth : (5 * dayOfYear + 2) / 153 = month
  by_cases hfebruary : month = 11
  · -- only here the length of the year matters
    subst hfebruary
    unfold daysInYear at hlt
    by_cases hleap : isLeapYear (year + 1) = true
    · simp [daysInMonth, hleap] at hlt ⊢
      omega
    · simp [daysInMonth, hleap] at hlt ⊢
      omega
  · have hmin : 0 ≤ month := by omega
    have hmax : month ≤ 10 := by omega
    interval_cases month
    all_goals
      simp [daysInMonth]
      omega

/-- Every day lies in a year, and has the date that it has in that year. -/
theorem exists_inYear (days : Int) : ∃ year dayOfYear, 0 ≤ dayOfYear ∧
    dayOfYear < daysInYear year ∧ days = yearStart year + dayOfYear - epochOffset ∧
    ofDays days = inYear year dayOfYear := by
  have hpos : 0 ≤ (days + epochOffset) % daysInCycle := Int.emod_nonneg _ (by decide)
  have hlt : (days + epochOffset) % daysInCycle < daysInCycle :=
    Int.emod_lt_of_pos _ (by decide)
  have hsum := Int.mul_ediv_add_emod (days + epochOffset) daysInCycle
  obtain ⟨year, hbound, hyear, hstart, hend⟩ := exists_yearOfCycle hpos hlt
  generalize hday : (days + epochOffset) % daysInCycle = day at *
  generalize hcycles : (days + epochOffset) / daysInCycle = cycles at *
  rw [yearStart_succ] at hend
  have hyearStart : 365 * (year : Int) + year / 4 - year / 100 = yearStart year := by
    unfold yearStart
    omega
  refine ⟨cycles * 400 + year, day - yearStart year, by omega, ?_, ?_, ?_⟩
  · rw [daysInYear_add_cycles]
    omega
  · rw [yearStart_add_cycles, Int.mul_comm cycles]
    omega
  · unfold evenDay at hyear
    unfold ofDays
    simp only [hday, hcycles, hyear, hyearStart]
    rfl

theorem isValid_ofDays (days : Int) : (ofDays days).IsValid := by
  obtain ⟨year, dayOfYear, hpos, hlt, -, hdate⟩ := exists_inYear days
  rw [hdate]
  exact isValid_inYear hpos hlt

theorem toDays_ofDays (days : Int) : (ofDays days).toDays = days := by
  obtain ⟨year, dayOfYear, hpos, hlt, hdays, hdate⟩ := exists_inYear days
  have hlast := daysInYear_le year
  rw [hdate, toDays_inYear hpos (by omega), hdays]

end LatestTag.Date
