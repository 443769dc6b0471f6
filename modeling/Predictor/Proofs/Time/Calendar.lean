import Mathlib.Tactic.Common
import Mathlib.Tactic.IntervalCases
import Predictor.Time.Calendar

/-!
Days and dates. A day of an era of 400 years lies in one century, one cycle of four years, one year
of the cycle, and has a number in it (`Placed`); the computed year of the era is that year
(`Placed.year_eq`). So the date of a count of days is a day of its month, and it has that count
(`toDays_ofDays`).
-/

namespace Predictor.Time

/-! ## Days of an era -/

/-- Day `day` of the year `100 * century + 4 * cycle + year` of an era. Years begin in March, so a
leap day is the last one; the last year of a century has none, but in the last century. -/
structure Placed (dayOfEra century cycle year day : Int) : Prop where
  sum : dayOfEra = 36524 * century + 1461 * cycle + 365 * year + day
  century_mem : 0 ≤ century ∧ century ≤ 3
  cycle_mem : 0 ≤ cycle ∧ cycle ≤ 24
  year_mem : 0 ≤ year ∧ year ≤ 3
  day_mem : 0 ≤ day ∧ (day ≤ 364 ∨ day = 365 ∧ year = 3 ∧ (cycle ≠ 24 ∨ century = 3))

theorem exists_placed {dayOfEra : Int} (low : 0 ≤ dayOfEra) (high : dayOfEra < 146097) :
    ∃ century cycle year day, Placed dayOfEra century cycle year day := by
  -- The last day of the last century is one more than a century has.
  have hcentury : ∃ century r, dayOfEra = 36524 * century + r ∧ 0 ≤ century ∧ century ≤ 3 ∧
      0 ≤ r ∧ (r ≤ 36523 ∨ r = 36524 ∧ century = 3) := by
    by_cases h : dayOfEra = 146096
    · exact ⟨3, 36524, by omega⟩
    · exact ⟨dayOfEra / 36524, dayOfEra % 36524, by omega⟩
  obtain ⟨century, r, hdoe, c0, c3, r0, hr⟩ := hcentury
  have hcycle : ∃ cycle s, r = 1461 * cycle + s ∧ 0 ≤ cycle ∧ cycle ≤ 24 ∧ 0 ≤ s ∧ s ≤ 1460 :=
    ⟨r / 1461, r % 1461, by omega⟩
  obtain ⟨cycle, s, hs, q0, q24, s0, s1⟩ := hcycle
  by_cases leap : s = 1460
  · refine ⟨century, cycle, 3, 365, ?_, ⟨c0, c3⟩, ⟨q0, q24⟩, ?_, ?_⟩ <;> omega
  · refine ⟨century, cycle, s / 365, s % 365, ?_, ⟨c0, c3⟩, ⟨q0, q24⟩, ?_, ?_⟩ <;> omega

namespace Placed

variable {dayOfEra century cycle year day : Int}

/-- The days before a year of an era. -/
theorem start_eq (h : Placed dayOfEra century cycle year day) :
    365 * (100 * century + 4 * cycle + year) + (100 * century + 4 * cycle + year) / 4 -
      (100 * century + 4 * cycle + year) / 100 = dayOfEra - day := by
  obtain ⟨sum, ⟨c0, c3⟩, ⟨q0, q24⟩, ⟨y0, y3⟩, -⟩ := h
  have hfour : (100 * century + 4 * cycle + year) / 4 = 25 * century + cycle := by omega
  have hhundred : (100 * century + 4 * cycle + year) / 100 = century := by omega
  omega

/-- The computed year of the era. -/
theorem year_eq (h : Placed dayOfEra century cycle year day) :
    (dayOfEra - dayOfEra / 1460 + dayOfEra / 36524 - dayOfEra / 146096) / 365 =
      100 * century + 4 * cycle + year := by
  obtain ⟨sum, ⟨c0, c3⟩, ⟨q0, q24⟩, ⟨y0, y3⟩, d0, hd⟩ := h
  by_cases last : dayOfEra = 146096
  · subst last
    omega
  have hlast : dayOfEra / 146096 = 0 := by omega
  have hcentury : dayOfEra / 36524 = century := by omega
  -- The leap days before the year are counted by the quotient by 1460, but for the one at its end.
  have hleap : dayOfEra / 1460 = 25 * century + cycle ∧ day ≤ 364 ∨
      dayOfEra / 1460 = 25 * century + cycle + 1 ∧ 1 ≤ day := by omega
  rcases hleap with ⟨hleap, hday⟩ | ⟨hleap, hday⟩
  · rw [hlast, hcentury, hleap]
    omega
  · rw [hlast, hcentury, hleap]
    omega

end Placed

/-! ## Dates -/

/-- The date of a day of the year that begins in March of `year`. -/
def dateInYear (year day : Int) : Date :=
  let monthFromMarch := (5 * day + 2) / 153
  let month := if monthFromMarch < 10 then monthFromMarch + 3 else monthFromMarch - 9
  ⟨if month ≤ 2 then year + 1 else year, month.toNat,
    (day - (153 * monthFromMarch + 2) / 5 + 1).toNat⟩

/-- A leap day is the last day of a year that is followed by a leap year. -/
def IsDayOfYear (year day : Int) : Prop :=
  0 ≤ day ∧ (day ≤ 364 ∨ day = 365 ∧ isLeapYear (year + 1) = true)

theorem isLeapYear_iff {year : Int} :
    isLeapYear year = true ↔ year % 4 = 0 ∧ year % 100 ≠ 0 ∨ year % 400 = 0 := by
  simp [isLeapYear]

theorem Placed.isDayOfYear {dayOfEra century cycle year day : Int}
    (h : Placed dayOfEra century cycle year day) (era : Int) :
    IsDayOfYear (400 * era + (100 * century + 4 * cycle + year)) day := by
  obtain ⟨-, ⟨c0, c3⟩, ⟨q0, q24⟩, -, d0, hd⟩ := h
  refine ⟨d0, hd.imp_right ?_⟩
  rintro ⟨hday, hyear, hcycle⟩
  refine ⟨hday, isLeapYear_iff.2 ?_⟩
  omega

/-- Every day is a day of one year of one era. -/
theorem exists_ofDays_eq (days : Int) : ∃ era yearOfEra day : Int,
    0 ≤ yearOfEra ∧ yearOfEra ≤ 399 ∧ IsDayOfYear (400 * era + yearOfEra) day ∧
      Date.ofDays days = dateInYear (400 * era + yearOfEra) day ∧
      days = era * 146097 + (yearOfEra * 365 + yearOfEra / 4 - yearOfEra / 100 + day) - 719468 := by
  have low : 0 ≤ (days + 719468) % 146097 := Int.emod_nonneg _ (by decide)
  have high : (days + 719468) % 146097 < 146097 := Int.emod_lt_of_pos _ (by decide)
  obtain ⟨century, cycle, year, day, placed⟩ := exists_placed low high
  have hstart := placed.start_eq
  have hyear := placed.year_eq
  have hday := placed.isDayOfYear ((days + 719468) / 146097)
  obtain ⟨-, ⟨c0, c3⟩, ⟨q0, q24⟩, ⟨y0, y3⟩, -⟩ := placed
  refine ⟨(days + 719468) / 146097, 100 * century + 4 * cycle + year, day, by omega, by omega,
    hday, ?_, by omega⟩
  have hsame : (days + 719468) % 146097 - ((days + 719468) % 146097 - day) = day := by omega
  simp only [Date.ofDays, hyear, hstart, hsame, dateInYear]
  congr 1
  split_ifs <;> omega

theorem monthFromMarch_mem {year day : Int} (h : IsDayOfYear year day) :
    0 ≤ (5 * day + 2) / 153 ∧ (5 * day + 2) / 153 ≤ 11 := by
  obtain ⟨d0, hd⟩ := h
  omega

theorem toDays_dateInYear {era yearOfEra day : Int} (y0 : 0 ≤ yearOfEra) (y399 : yearOfEra ≤ 399)
    (h : IsDayOfYear (400 * era + yearOfEra) day) :
    (dateInYear (400 * era + yearOfEra) day).toDays =
      era * 146097 + (yearOfEra * 365 + yearOfEra / 4 - yearOfEra / 100 + day) - 719468 := by
  obtain ⟨m0, m11⟩ := monthFromMarch_mem h
  obtain ⟨d0, -⟩ := h
  have hera : (400 * era + yearOfEra) / 400 = era := by omega
  have hyear : (400 * era + yearOfEra) % 400 = yearOfEra := by omega
  simp only [Date.toDays, dateInYear]
  by_cases hmonth : (5 * day + 2) / 153 < 10
  · have hlate : ¬(5 * day + 2) / 153 + 3 ≤ 2 := by omega
    have hlate' : ¬((5 * day + 2) / 153 + 3).toNat ≤ 2 := by omega
    simp only [if_pos hmonth, if_neg hlate, if_neg hlate', hera, hyear]
    omega
  · have hearly : (5 * day + 2) / 153 - 9 ≤ 2 := by omega
    have hearly' : ((5 * day + 2) / 153 - 9).toNat ≤ 2 := by omega
    simp only [if_neg hmonth, if_pos hearly, if_pos hearly', Int.add_sub_cancel, hera, hyear]
    omega

/-- **Days from dates.** The date of a count of days has that count. -/
theorem toDays_ofDays (days : Int) : (Date.ofDays days).toDays = days := by
  obtain ⟨era, yearOfEra, day, y0, y399, hday, hdate, hdays⟩ := exists_ofDays_eq days
  rw [hdate, toDays_dateInYear y0 y399 hday, ← hdays]

/-- The date is a day of its month. -/
theorem dateInYear_isDay {year day : Int} (h : IsDayOfYear year day) :
    1 ≤ (dateInYear year day).month ∧ (dateInYear year day).month ≤ 12 ∧
      1 ≤ (dateInYear year day).day ∧ (dateInYear year day).day ≤
        daysInMonth (dateInYear year day).year (dateInYear year day).month := by
  obtain ⟨m0, m11⟩ := monthFromMarch_mem h
  obtain ⟨d0, hd⟩ := h
  obtain ⟨month, hmonth⟩ : ∃ month, month = (5 * day + 2) / 153 := ⟨_, rfl⟩
  rw [← hmonth] at m0 m11
  simp only [dateInYear, daysInMonth, ← hmonth]
  -- February ends the year, and there the length of the year shows.
  by_cases february : month = 11
  · subst february
    rcases hd with hd | ⟨hd, leap⟩
    · simp
      omega
    · simp [leap]
      omega
  · interval_cases month <;> simp <;> omega

/-- **Dates of days.** The date of a count of days is a day of a month. -/
theorem isDay_ofDays (days : Int) : 1 ≤ (Date.ofDays days).month ∧ (Date.ofDays days).month ≤ 12 ∧
    1 ≤ (Date.ofDays days).day ∧
      (Date.ofDays days).day ≤ daysInMonth (Date.ofDays days).year (Date.ofDays days).month := by
  obtain ⟨era, yearOfEra, day, -, -, hday, hdate, -⟩ := exists_ofDays_eq days
  rw [hdate]
  exact dateInYear_isDay hday

/-- In the years of the calendar it is valid. -/
theorem isValid_ofDays {days : Int} (low : Date.firstYear ≤ (Date.ofDays days).year)
    (high : (Date.ofDays days).year ≤ Date.lastYear) : (Date.ofDays days).isValid = true := by
  obtain ⟨m1, m12, d1, dlast⟩ := isDay_ofDays days
  simp [Date.isValid, low, high, m1, m12, d1, dlast]

end Predictor.Time
