import MapContext.Instant

/-!
# The calendar

The Gregorian calendar repeats after 400 years of 146097 days. Years are counted from March, so
that the leap day is the last day of its year. Every day has a date, and the date has the number of
the day.
-/

namespace MapContext.Instant

/-- The year within an era to which a day belongs. -/
def yearOfEra (dayOfEra : Int) : Int :=
  (dayOfEra - dayOfEra / 1460 + dayOfEra / 36524 - dayOfEra / 146096) / 365

/-- The day of a year that begins in March. -/
def dayOfYear (dayOfEra : Int) : Int :=
  dayOfEra - (365 * yearOfEra dayOfEra + yearOfEra dayOfEra / 4 - yearOfEra dayOfEra / 100)

/-- The month counted from March. -/
def monthFromMarch (dayOfEra : Int) : Int := (5 * dayOfYear dayOfEra + 2) / 153

/-- The day of a month counted from March. -/
def dayOfMonth (dayOfEra : Int) : Int :=
  dayOfYear dayOfEra - (153 * monthFromMarch dayOfEra + 2) / 5 + 1

section Era

variable {n : Int}

/-- A day lies in one of 400 years. The bounds on quotients hold for each of the four centuries
apart from the last day of the era. -/
theorem yearOfEra_spec (h₀ : 0 ≤ n) (h : n < 146097) :
    0 ≤ yearOfEra n ∧ yearOfEra n < 400 ∧
      yearOfEra n / 4 ≤ n / 1460 + n / 146096 ∧ n / 1460 ≤ yearOfEra n / 4 + 1 ∧
      yearOfEra n / 100 + n / 146096 = n / 36524 := by
  have hcentury : n / 36524 = 0 ∨ n / 36524 = 1 ∨ n / 36524 = 2 ∨ n / 36524 = 3 ∨
      n / 36524 = 4 := by omega
  have hlast : n / 146096 = 0 ∨ n / 146096 = 1 := by omega
  rw [yearOfEra]
  rcases hcentury with hc | hc | hc | hc | hc <;> rcases hlast with hl | hl <;>
    rw [hc, hl] <;> refine ⟨?_, ?_, ?_, ?_, ?_⟩ <;> omega

/-- A year has 365 days, and one more if the calendar year that ends in it is a leap year. -/
theorem dayOfYear_spec (h₀ : 0 ≤ n) (h : n < 146097) :
    0 ≤ dayOfYear n ∧ dayOfYear n ≤ 365 ∧
      (dayOfYear n = 365 → isLeapYear (yearOfEra n + 1) = true) := by
  obtain ⟨h0, h400, hlow, hhigh, hcentury⟩ := yearOfEra_spec h₀ h
  have hyear : 365 * yearOfEra n ≤ n - n / 1460 + n / 36524 - n / 146096 ∧
      n - n / 1460 + n / 36524 - n / 146096 < 365 * yearOfEra n + 365 := by
    rw [yearOfEra]
    omega
  rw [dayOfYear]
  generalize yearOfEra n = y at *
  refine ⟨by omega, by omega, ?_⟩
  intro hday
  have hcycle : n / 1460 = y / 4 + 1 := by omega
  have hrest : y % 4 = 0 ∨ y % 4 = 1 ∨ y % 4 = 2 ∨ y % 4 = 3 := by omega
  have hfour : (y + 1) % 4 = 0 := by rcases hrest with hr | hr | hr | hr <;> omega
  have hhundred : (y + 1) % 100 ≠ 0 ∨ (y + 1) % 400 = 0 := by omega
  simpa [isLeapYear, hfour] using hhundred

theorem monthFromMarch_spec (h₀ : 0 ≤ n) (h : n < 146097) :
    0 ≤ monthFromMarch n ∧ monthFromMarch n ≤ 11 := by
  obtain ⟨h0, h365, -⟩ := dayOfYear_spec h₀ h
  rw [monthFromMarch]
  omega

/-- A date counted from March: the months before the day's month have
`(153 * month + 2) / 5` days, and the month reaches to the day. -/
theorem dayOfMonth_spec (h₀ : 0 ≤ n) (h : n < 146097) :
    1 ≤ dayOfMonth n ∧ dayOfMonth n ≤ 31 ∧
      ((monthFromMarch n = 1 ∨ monthFromMarch n = 3 ∨ monthFromMarch n = 6 ∨
        monthFromMarch n = 8) → dayOfMonth n ≤ 30) ∧
      (monthFromMarch n = 11 → dayOfMonth n ≤ 29 ∧
        (dayOfMonth n = 29 → dayOfYear n = 365)) := by
  obtain ⟨h0, h365, -⟩ := dayOfYear_spec h₀ h
  rw [dayOfMonth, monthFromMarch]
  generalize dayOfYear n = d at *
  refine ⟨?_, ?_, ?_, ?_⟩ <;> omega

end Era

/-- The date of a day within its era. -/
theorem dateOfDays_eq (days : Int) :
    dateOfDays days =
      let n := (days + 719468) % 146097
      let month := if monthFromMarch n < 10 then monthFromMarch n + 3 else monthFromMarch n - 9
      (yearOfEra n + (days + 719468) / 146097 * 400 + (if month ≤ 2 then 1 else 0),
        month.toNat, (dayOfMonth n).toNat) :=
  rfl

theorem isLeapYear_add_era (year era : Int) :
    isLeapYear (year + era * 400) = isLeapYear year := by
  have hfour : (year + era * 400) % 4 = year % 4 := by omega
  have hhundred : (year + era * 400) % 100 = year % 100 := by omega
  have hfourHundred : (year + era * 400) % 400 = year % 400 := by omega
  rw [isLeapYear, isLeapYear, hfour, hhundred, hfourHundred]

theorem le_daysInMonth {year : Int} {month day : Nat} (h31 : day ≤ 31)
    (h30 : month = 4 ∨ month = 6 ∨ month = 9 ∨ month = 11 → day ≤ 30)
    (h29 : month = 2 → day ≤ 29 ∧ (day = 29 → isLeapYear year = true)) :
    day ≤ daysInMonth year month := by
  simp only [daysInMonth, Bool.or_eq_true, decide_eq_true_eq]
  split
  · next hmonth =>
      obtain ⟨hmost, hleap⟩ := h29 hmonth
      split
      · exact hmost
      · next hcommon =>
          have hday : day ≠ 29 := fun hday => hcommon (hleap hday)
          omega
  · split <;> omega

/-- The date of a day is a date of the calendar. -/
theorem dateOfDays_valid (days : Int) :
    1 ≤ (dateOfDays days).2.1 ∧ (dateOfDays days).2.1 ≤ 12 ∧ 1 ≤ (dateOfDays days).2.2 ∧
      (dateOfDays days).2.2 ≤ daysInMonth (dateOfDays days).1 (dateOfDays days).2.1 := by
  have h₀ : 0 ≤ (days + 719468) % 146097 := by omega
  have h : (days + 719468) % 146097 < 146097 := by omega
  obtain ⟨hm0, hm11⟩ := monthFromMarch_spec h₀ h
  obtain ⟨hd1, hd31, hd30, hd29⟩ := dayOfMonth_spec h₀ h
  obtain ⟨-, -, hleap⟩ := dayOfYear_spec h₀ h
  rw [dateOfDays_eq]
  generalize (days + 719468) % 146097 = n at *
  generalize (days + 719468) / 146097 = era
  simp only
  refine ⟨by omega, by omega, by omega, le_daysInMonth (by omega) (by omega) ?_⟩
  intro hmonth
  have hlast : monthFromMarch n = 11 := by omega
  obtain ⟨hmost, hfull⟩ := hd29 hlast
  refine ⟨by omega, ?_⟩
  intro hday
  rw [if_neg (by omega : ¬monthFromMarch n < 10), if_pos (by omega : monthFromMarch n - 9 ≤ 2),
    show yearOfEra n + era * 400 + 1 = yearOfEra n + 1 + era * 400 by omega, isLeapYear_add_era]
  exact hleap (hfull (by omega))

theorem daysOfDate_eq {year : Int} {month day : Nat} (era m : Int) {y : Int} (hy0 : 0 ≤ y)
    (hy : y < 400) (hm : ((month : Int) + 9) % 12 = m)
    (hyear : (if month ≤ 2 then year - 1 else year) = y + era * 400) :
    daysOfDate year month day =
      era * 146097 + (y * 365 + y / 4 - y / 100 + ((153 * m + 2) / 5 + day - 1)) - 719468 := by
  simp only [daysOfDate, hyear, hm]
  rw [show (y + era * 400) / 400 = era by omega, show (y + era * 400) % 400 = y by omega]

/-- The date of a day has the number of the day. -/
theorem daysOfDate_dateOfDays (days : Int) :
    daysOfDate (dateOfDays days).1 (dateOfDays days).2.1 (dateOfDays days).2.2 = days := by
  have h₀ : 0 ≤ (days + 719468) % 146097 := by omega
  have h : (days + 719468) % 146097 < 146097 := by omega
  have hdays : days = (days + 719468) / 146097 * 146097 + (days + 719468) % 146097 - 719468 := by
    omega
  obtain ⟨hm0, hm11⟩ := monthFromMarch_spec h₀ h
  obtain ⟨hd1, -⟩ := dayOfMonth_spec h₀ h
  obtain ⟨hy0, hy400, -⟩ := yearOfEra_spec h₀ h
  rw [dateOfDays_eq]
  generalize hera : (days + 719468) / 146097 = era at *
  generalize hn : (days + 719468) % 146097 = n at *
  simp only
  rw [daysOfDate_eq era (monthFromMarch n) hy0 hy400]
  · have hday : dayOfMonth n = dayOfYear n - (153 * monthFromMarch n + 2) / 5 + 1 := rfl
    have hyear : dayOfYear n
        = n - (365 * yearOfEra n + yearOfEra n / 4 - yearOfEra n / 100) := rfl
    omega
  · split <;> omega
  · split <;> split <;> omega

end MapContext.Instant
