/-
# Days and their numbers

The calendar repeats itself after 400 years of 146097 days. In them a day is
found by its century, by the four years in that and by the year in these: each
of these is as long as the one before, but for the last, which may have a day
more. Years begin in March here, so the day that is added is the last day of
the year, and months have their lengths wherever they lie.

Every number is the number of a day, and numbers in the range of the calendar are
numbers of its days.
-/

import Transact.Calendar.Timestamp
import Mathlib.Tactic.ByContra
import Mathlib.Tactic.SplitIfs

namespace Transact.Calendar

/-- A day of 400 years: the century, the four years and the year in which it lies, all counted from
0, and the day in that year. -/
structure CycleDay where
  century : Int
  quad : Int
  year : Int
  day : Int
  century_nonneg : 0 ≤ century
  century_le : century ≤ 3
  quad_nonneg : 0 ≤ quad
  quad_le : quad ≤ 24
  year_nonneg : 0 ≤ year
  year_le : year ≤ 3
  day_nonneg : 0 ≤ day
  day_le : day ≤ 365
  /-- The last day of a leap year is in the last of four years, and in the last four years of a
  century only if this is the last one. -/
  leap : day = 365 → year = 3 ∧ (quad = 24 → century = 3)

namespace CycleDay

variable (x : CycleDay)

/-- The year in the 400. -/
def yearOfCycle : Int := 100 * x.century + 4 * x.quad + x.year

/-- The number of the day in the 400 years. -/
def number : Int := 36524 * x.century + 1461 * x.quad + 365 * x.year + x.day

/-- The 146097 numbers are those of the days. -/
theorem exists_number_eq {n : Int} (hmin : 0 ≤ n) (hmax : n < 146097) :
    ∃ x : CycleDay, x.number = n := by
  let century := min (n / 36524) 3
  let inCentury := n - 36524 * century
  let quad := inCentury / 1461
  let inQuad := inCentury - 1461 * quad
  let year := min (inQuad / 365) 3
  refine ⟨⟨century, quad, year, inQuad - 365 * year, ?_, ?_, ?_, ?_, ?_, ?_, ?_, ?_, ?_⟩, ?_⟩
  all_goals simp only [number, century, inCentury, quad, inQuad, year]
  all_goals omega

theorem number_nonneg : 0 ≤ x.number := by
  obtain ⟨century, quad, year, day, _, _, _, _, _, _, _, _, _⟩ := x
  simp only [number]
  omega

theorem number_lt : x.number < 146097 := by
  obtain ⟨century, quad, year, day, _, _, _, _, _, _, _, _, _⟩ := x
  simp only [number]
  omega

/-! ## The year -/

theorem number_div_century : x.number / 36524 - x.number / 146096 = x.century := by
  obtain ⟨century, quad, year, day, _, _, _, _, _, _, _, _, _⟩ := x
  simp only [number]
  -- Only the last day of all is not in the century that the division gives.
  by_cases hlast : 1461 * quad + 365 * year + day = 36524
  · have hcentury : century = 3 := by omega
    omega
  · have hwhole : (36524 * century + 1461 * quad + 365 * year + day) / 36524 = century := by omega
    have hcycle : (36524 * century + 1461 * quad + 365 * year + day) / 146096 = 0 := by omega
    omega

theorem days_before_year :
    365 * x.yearOfCycle + x.yearOfCycle / 4 - x.yearOfCycle / 100 =
      36524 * x.century + 1461 * x.quad + 365 * x.year := by
  obtain ⟨century, quad, year, day, _, _, _, _, _, _, _, _, _⟩ := x
  simp only [yearOfCycle]
  omega

/-- The days that are added to the years before are taken away: then all years have 365 days. -/
theorem yearOfCycle_eq :
    (x.number - x.number / 1460 + x.number / 36524 - x.number / 146096) / 365 = x.yearOfCycle := by
  have hcentury := x.number_div_century
  obtain ⟨century, quad, year, day, _, _, _, _, _, _, _, _, _⟩ := x
  simp only [number, yearOfCycle] at hcentury ⊢
  -- Dividing by 1460 takes away one day too many near the end of four years, where it does no harm.
  let surplus := (24 * century + quad + 365 * year + day) / 1460
  have hadded : (36524 * century + 1461 * quad + 365 * year + day) / 1460 =
      25 * century + quad + surplus := by
    omega
  have hsurplus : surplus = 0 ∨ surplus = 1 := by omega
  omega

/-! ## The month and its day -/

/-- The month, counted from March. -/
def monthFromMarch : Int := (5 * x.day + 2) / 153

/-- The month, counted from January. -/
def month : Int := if x.monthFromMarch < 10 then x.monthFromMarch + 3 else x.monthFromMarch - 9

/-- The day of the month. -/
def dayOfMonth : Int := x.day - (153 * x.monthFromMarch + 2) / 5 + 1

/-- The year in which the day lies, so many 400 years on. -/
def yearAfter (era : Int) : Int := x.yearOfCycle + era * 400 + if x.month ≤ 2 then 1 else 0

/-- The day that a number is turned into. -/
theorem ofDayNumber_eq (era : Int) :
    ofDayNumber (era * 146097 + x.number - 719468) =
      (x.yearAfter era, x.month.toNat, x.dayOfMonth.toNat) := by
  have hnonneg := x.number_nonneg
  have hlt := x.number_lt
  have hshift : era * 146097 + x.number - 719468 + 719468 = era * 146097 + x.number := by omega
  have hera : (era * 146097 + x.number) / 146097 = era := by omega
  have hnumber : era * 146097 + x.number - era * 146097 = x.number := by omega
  have hday : x.number - (36524 * x.century + 1461 * x.quad + 365 * x.year) = x.day := by
    unfold number
    omega
  simp only [ofDayNumber, hshift, hera, hnumber, yearOfCycle_eq, days_before_year, hday]
  rfl

theorem month_mem_range : 1 ≤ x.month ∧ x.month ≤ 12 := by
  have hday := x.day_nonneg
  have hday' := x.day_le
  unfold month monthFromMarch
  omega

theorem dayOfMonth_pos : 1 ≤ x.dayOfMonth := by
  have hday := x.day_nonneg
  have hday' := x.day_le
  unfold dayOfMonth monthFromMarch
  omega

/-- The number that the day is turned into. -/
theorem dayNumber_eq (era : Int) :
    dayNumber (x.yearAfter era) x.month.toNat x.dayOfMonth.toNat =
      era * 146097 + x.number - 719468 := by
  have hmonth := x.month_mem_range
  have hday := x.dayOfMonth_pos
  have hmarch : (if x.month.toNat ≤ 2 then x.yearAfter era - 1 else x.yearAfter era) =
      x.yearOfCycle + era * 400 := by
    unfold yearAfter
    split_ifs <;> omega
  have hera : (x.yearOfCycle + era * 400) / 400 = era := by
    obtain ⟨century, quad, year, day, _, _, _, _, _, _, _, _, _⟩ := x
    simp only [yearOfCycle]
    omega
  have hyear : x.yearOfCycle + era * 400 - era * 400 = x.yearOfCycle := by omega
  have hmonthFromMarch :
      (if x.month.toNat ≤ 2 then (x.month.toNat : Int) + 9 else x.month.toNat - 3) =
        x.monthFromMarch := by
    have hfirst := x.day_nonneg
    have hlast := x.day_le
    unfold month monthFromMarch
    omega
  have hdayOfYear : (153 * x.monthFromMarch + 2) / 5 + (x.dayOfMonth.toNat : Int) - 1 = x.day := by
    unfold dayOfMonth at hday ⊢
    omega
  have hbefore := x.days_before_year
  simp only [dayNumber, hmarch, hera, hyear, hmonthFromMarch, hdayOfYear]
  unfold number
  omega

/-- The day that is added to a year lies in a leap year. -/
theorem isLeap_yearAfter (hday : x.day = 365) (era : Int) : isLeap (x.yearAfter era) = true := by
  obtain ⟨hlast, hcentury⟩ := x.leap hday
  have hmonth : x.month = 2 := by
    unfold month monthFromMarch
    rw [hday]
    decide
  have hyear : x.yearAfter era = 100 * x.century + 4 * x.quad + era * 400 + 4 := by
    unfold yearAfter yearOfCycle
    rw [hmonth, hlast, if_pos (by decide)]
    omega
  have hquad := x.quad_nonneg
  have hquad' := x.quad_le
  simp only [isLeap, hyear, Bool.and_eq_true, Bool.or_eq_true, decide_eq_true_eq]
  by_cases hfull : x.quad = 24
  · have hlastCentury := hcentury hfull
    omega
  · omega

/-- The day lies in its month. -/
theorem dayOfMonth_le (era : Int) :
    x.dayOfMonth.toNat ≤ daysIn (x.yearAfter era) x.month.toNat := by
  have hday := x.day_nonneg
  have hday' := x.day_le
  unfold daysIn
  split
  case isTrue hmonth =>
    have hshort : x.dayOfMonth.toNat ≤ 28 ∨ x.day = 365 := by
      unfold month monthFromMarch at hmonth
      unfold dayOfMonth monthFromMarch
      omega
    have hlong : x.dayOfMonth.toNat ≤ 29 := by
      unfold month monthFromMarch at hmonth
      unfold dayOfMonth monthFromMarch
      omega
    rcases hshort with hshort | hlast
    · split_ifs <;> omega
    · rwa [if_pos (x.isLeap_yearAfter hlast era)]
  case isFalse hmonth =>
    unfold month monthFromMarch at hmonth ⊢
    unfold dayOfMonth monthFromMarch
    split_ifs <;> omega

/-- A day lies in a year of the calendar if its number is between those of the first and the last
day. -/
theorem yearAfter_mem_range {era : Int}
    (hmin : dayNumber minYear 1 1 ≤ era * 146097 + x.number - 719468)
    (hmax : era * 146097 + x.number - 719468 ≤ dayNumber maxYear 12 31) :
    minYear ≤ x.yearAfter era ∧ x.yearAfter era ≤ maxYear := by
  have hfirst : dayNumber minYear 1 1 = -96465292 := by decide
  have hlast : dayNumber maxYear 12 31 = 95026236 := by decide
  rw [hfirst] at hmin
  rw [hlast] at hmax
  unfold minYear maxYear
  obtain ⟨century, quad, year, day, _, _, _, _, _, _, _, _, _⟩ := x
  simp only [number, yearAfter, yearOfCycle, month, monthFromMarch] at hmin hmax ⊢
  refine ⟨by omega, ?_⟩
  by_contra hlate
  -- The last year begins in March of the year 142 of its cycle.
  have hera : era = 655 := by omega
  have hcentury : century = 1 := by omega
  have hquad : quad = 10 := by omega
  omega

end CycleDay

/-! ## Days and numbers -/

/-- Every number is that of a day in 400 years. -/
theorem exists_cycleDay (n : Int) :
    ∃ (era : Int) (x : CycleDay), n = era * 146097 + x.number - 719468 := by
  obtain ⟨x, hx⟩ := @CycleDay.exists_number_eq ((n + 719468) % 146097) (by omega) (by omega)
  exact ⟨(n + 719468) / 146097, x, by omega⟩

/-- The day of a number has this number. -/
theorem dayNumber_ofDayNumber (n : Int) :
    dayNumber (ofDayNumber n).1 (ofDayNumber n).2.1 (ofDayNumber n).2.2 = n := by
  obtain ⟨era, x, rfl⟩ := exists_cycleDay n
  rw [x.ofDayNumber_eq, x.dayNumber_eq]

/-- The day of a number between those of the first and the last day is one that the calendar
covers. -/
theorem isDay_ofDayNumber {n : Int} (hmin : dayNumber minYear 1 1 ≤ n)
    (hmax : n ≤ dayNumber maxYear 12 31) :
    IsDay (ofDayNumber n).1 (ofDayNumber n).2.1 (ofDayNumber n).2.2 := by
  obtain ⟨era, x, rfl⟩ := exists_cycleDay n
  obtain ⟨hfirst, hlast⟩ := x.yearAfter_mem_range hmin hmax
  have hmonth : 1 ≤ x.month.toNat ∧ x.month.toNat ≤ 12 := by
    have hrange := x.month_mem_range
    omega
  have hday : 1 ≤ x.dayOfMonth.toNat := by
    have hpos := x.dayOfMonth_pos
    omega
  rw [x.ofDayNumber_eq]
  exact ⟨hfirst, hlast, hmonth.1, hmonth.2, hday, x.dayOfMonth_le era⟩

end Transact.Calendar
