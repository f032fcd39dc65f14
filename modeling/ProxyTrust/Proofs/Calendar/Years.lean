/-
  Years by their first days, and the same date ten years later.

  1. **Where a year starts** — a date is in a year or in a later one exactly if it is not before
     the first of January (`le_year_iff`).  So a range of years is a range of day numbers
     (`inRange_ofDayNumber_iff`).

  2. **Ten years** — of two years ten apart at most one is a leap year, for ten is not a multiple
     of four.  The first days are 3651 to 3653 days apart: a century that is not a leap year takes
     one of the two or three leap days away (`yearStart_add_ten`).  From March on the days are
     counted back from the end of the year, so that the same bounds do for every month
     (`dayNumber_tenYearsLater`).

  3. **Moments** — the year that a moment shows and its year in UTC, by its instant.
-/
import ProxyTrust.Proofs.Calendar.Date

namespace ProxyTrust

namespace Date

variable {d : Date}

/-! ## Where a year starts -/

/-- A date exists if its month is one of twelve and its day one of the month. -/
theorem isReal_iff : d.isReal = true ↔
    1 ≤ d.month ∧ d.month ≤ 12 ∧ 1 ≤ d.day ∧ d.day ≤ monthLength d.year d.month := by
  simp only [isReal, Bool.and_eq_true, decide_eq_true_eq, and_assoc]

theorem inRange_iff : d.inRange = true ↔ -9999 ≤ d.year ∧ d.year ≤ 9999 := by
  simp only [inRange, Bool.and_eq_true, decide_eq_true_eq]

/-- Years differ by the 29 February alone. -/
theorem monthLength_eq (year : Int) (month : Nat) :
    monthLength year month
      = monthLength 1 month + if month = 2 ∧ isLeap year = true then 1 else 0 := by
  have hcommon : isLeap 1 = false := by decide
  unfold monthLength
  rw [hcommon]
  by_cases hmonth : month = 2
  · cases isLeap year <;> simp [hmonth]
  · simp [hmonth]

/-- From March on, a leap year has one more day before a month than any other year. -/
theorem daysBeforeMonth_eq (year : Int) (month : Nat) :
    daysBeforeMonth year month
      = daysBeforeMonth 1 month + if 2 < month ∧ isLeap year = true then 1 else 0 := by
  induction month with
  | zero => rfl
  | succ month ih =>
    cases month with
    | zero => rfl
    | succ month =>
      rw [daysBeforeMonth_succ, daysBeforeMonth_succ, ih, monthLength_eq year]
      cases isLeap year with
      | false => simp
      | true =>
        simp only [and_true]
        split <;> split <;> split <;> omega

theorem daysBeforeMonth_mono (year : Int) {month later : Nat} (h : month ≤ later) :
    daysBeforeMonth year month ≤ daysBeforeMonth year later := by
  induction h with
  | refl => exact Nat.le_refl _
  | @step later _ ih =>
    cases later with
    | zero => exact ih
    | succ later =>
      rw [daysBeforeMonth_succ]
      omega

/-- The day number of the first of January. -/
def yearStart (year : Int) : Int := daysBeforeYear year - epochDays

/-- A year later is as many days later as the year has. -/
theorem yearStart_succ (year : Int) : yearStart (year + 1) = yearStart year + yearLength year := by
  unfold yearStart yearLength
  split
  · next hleap =>
    rw [isLeap_iff] at hleap
    simp only [daysBeforeYear]
    omega
  · next hleap =>
    rw [isLeap_iff] at hleap
    simp only [daysBeforeYear]
    omega

theorem yearStart_mono {year later : Int} (h : year ≤ later) :
    yearStart year ≤ yearStart later := by
  simp only [yearStart, daysBeforeYear]
  omega

/-- A date that exists lies in its year. -/
theorem dayNumber_bounds (h : d.isReal = true) :
    yearStart d.year ≤ d.dayNumber ∧ d.dayNumber < yearStart (d.year + 1) := by
  obtain ⟨hlow, hhigh, hfirst, hlast⟩ := isReal_iff.mp h
  obtain ⟨before, hbefore⟩ : ∃ before, d.month = before + 1 := ⟨d.month - 1, by omega⟩
  -- the days before the next month are not more than those of the whole year
  have hnext := daysBeforeMonth_succ d.year before
  have hall := daysBeforeMonth_mono d.year (show before + 2 ≤ 13 by omega)
  rw [daysBeforeMonth_thirteen] at hall
  rw [hbefore] at hlast
  rw [yearStart_succ, yearStart, dayNumber, hbefore]
  omega

/-- A date is in a year or in a later one exactly if it is not before the first of January. -/
theorem le_year_iff (h : d.isReal = true) (year : Int) : year ≤ d.year
    ↔ yearStart year ≤ d.dayNumber := by
  obtain ⟨hlow, hhigh⟩ := dayNumber_bounds h
  constructor
  · intro hle
    have hstart := yearStart_mono hle
    omega
  · intro hle
    by_cases hlt : d.year + 1 ≤ year
    · have hstart := yearStart_mono hlt
      omega
    · omega

/-- The date of a number is in a year or after it exactly if the number is not before the first
    day of the year. -/
theorem le_year_ofDayNumber_iff (n year : Int) : year ≤ (ofDayNumber n).year
    ↔ yearStart year ≤ n := by
  rw [le_year_iff (isReal_ofDayNumber n), dayNumber_ofDayNumber]

/-- The day numbers of the dates in the range of years. -/
theorem inRange_ofDayNumber_iff (n : Int) :
    (ofDayNumber n).inRange = true ↔ yearStart (-9999) ≤ n ∧ n < yearStart 10000 := by
  have hlow := le_year_ofDayNumber_iff n (-9999)
  have hhigh := le_year_ofDayNumber_iff n 10000
  rw [inRange_iff]
  omega

/-! ## Ten years -/

/-- The number of a date: from March on, the days are counted back from the end of the year. -/
theorem dayNumber_eq (d : Date) :
    d.dayNumber = (if 2 < d.month then yearStart (d.year + 1) - 365 else yearStart d.year)
      + daysBeforeMonth 1 d.month + (d.day - 1) := by
  rw [dayNumber, daysBeforeMonth_eq, yearStart_succ, yearLength, yearStart]
  by_cases hmonth : 2 < d.month
  · cases isLeap d.year with
    | true =>
      simp only [hmonth, true_and, if_true]
      omega
    | false =>
      simp [hmonth]
      omega
  · simp only [hmonth, false_and, if_false]
    omega

/-- The first days of two years ten apart are 3651 to 3653 days from each other, and at least 3652
    after a leap year. -/
theorem yearStart_add_ten (year : Int) :
    yearStart year + 3651 ≤ yearStart (year + 10) ∧ yearStart (year + 10) ≤ yearStart year + 3653
      ∧ (isLeap year = true → yearStart year + 3652 ≤ yearStart (year + 10)) := by
  rw [isLeap_iff]
  simp only [yearStart, daysBeforeYear]
  omega

/-- No leap year is ten years after another. -/
theorem isLeap_add_ten {year : Int} (h : isLeap year = true) : isLeap (year + 10) = false := by
  rw [isLeap_iff] at h
  refine Bool.eq_false_iff.mpr fun hlater => ?_
  rw [isLeap_iff] at hlater
  omega

/-- The same month and day ten years later, 28 February for the 29th. -/
def tenYearsLater (d : Date) : Date :=
  ⟨d.year + 10, d.month, if d.month = 2 ∧ d.day = 29 then 28 else d.day⟩

/-- A 29 February is in a leap year. -/
theorem isLeap_of_isReal (h : d.isReal = true) (hmonth : d.month = 2) (hday : d.day = 29) :
    isLeap d.year = true := by
  obtain ⟨-, -, -, hlast⟩ := isReal_iff.mp h
  rw [hmonth, hday, monthLength, if_pos rfl] at hlast
  cases hleap : isLeap d.year with
  | true => rfl
  | false =>
    rw [hleap] at hlast
    exact absurd hlast (by decide)

/-- Ten years are 3651 to 3653 days. -/
theorem dayNumber_tenYearsLater (h : d.isReal = true) :
    d.dayNumber + 3651 ≤ d.tenYearsLater.dayNumber
      ∧ d.tenYearsLater.dayNumber ≤ d.dayNumber + 3653 := by
  obtain ⟨hlow, hhigh, hleap⟩ := yearStart_add_ten d.year
  obtain ⟨hlowNext, hhighNext, -⟩ := yearStart_add_ten (d.year + 1)
  have hnext : d.year + 10 + 1 = d.year + 1 + 10 := by omega
  rw [dayNumber_eq, dayNumber_eq, tenYearsLater]
  simp only [hnext]
  by_cases hclamp : d.month = 2 ∧ d.day = 29
  · have hlong := hleap (isLeap_of_isReal h hclamp.1 hclamp.2)
    simp only [hclamp, and_self, if_true, Nat.lt_irrefl, if_false]
    omega
  · simp only [if_neg hclamp]
    split <;> omega

/-- The date ten years later exists. -/
theorem isReal_tenYearsLater (h : d.isReal = true) : d.tenYearsLater.isReal = true := by
  obtain ⟨hlow, hhigh, hfirst, hlast⟩ := isReal_iff.mp h
  have hlater := monthLength_eq (d.year + 10) d.month
  have hshort : monthLength 1 2 = 28 := by decide
  rw [isReal_iff, tenYearsLater]
  by_cases hclamp : d.month = 2 ∧ d.day = 29
  · simp only [hclamp, and_self, if_true]
    rw [hclamp.1] at hlater
    omega
  · simp only [if_neg hclamp]
    refine ⟨hlow, hhigh, hfirst, ?_⟩
    -- the day is one that the month has in every year
    have hcommon : d.day ≤ monthLength 1 d.month := by
      rw [monthLength_eq] at hlast
      by_cases hmonth : d.month = 2
      · have hday : d.day ≠ 29 := fun hday => hclamp ⟨hmonth, hday⟩
        rw [hmonth] at hlast ⊢
        split at hlast <;> omega
      · rw [if_neg fun hboth => hmonth hboth.1] at hlast
        exact hlast
    omega

end Date

/-! ## Moments -/

namespace Moment

variable {t : Moment}

/-- A moment that the calendar has: an existing date in the range of years, and a second of a
    day. -/
structure Proper (t : Moment) : Prop where
  real : t.date.isReal = true
  inRange : t.date.inRange = true
  second_lt : t.second < daySeconds

theorem offset_addDays (t : Moment) (days : Int) : (t.addDays days).offset = t.offset := by
  obtain ⟨date, second, nanos, offset⟩ := t
  show offset = offset
  rfl

/-- Some days away there is such a moment, if its year is in the range. -/
theorem Proper.addDays {days : Int} (h : t.Proper) (hrange : (t.addDays days).date.inRange = true) :
    (t.addDays days).Proper := by
  obtain ⟨date, second, nanos, offset⟩ := t
  have hsecond : second < daySeconds := h.second_lt
  exact ⟨Date.isReal_ofDayNumber _, hrange, hsecond⟩

/-- The nanoseconds from the start of 1970 in UTC. -/
def instant (t : Moment) : Int := t.unix * 1000000000 + t.nanos

/-- The number of nanoseconds in a day. -/
def dayNanos : Int := daySeconds * 1000000000

/-- A moment on another date, at the same time of day and the same offset. -/
theorem instant_onDate (t : Moment) (date : Date) :
    Moment.instant { t with date }
      = t.instant + (date.dayNumber - t.date.dayNumber) * dayNanos := by
  simp only [instant, unix, dayNanos, daySeconds]
  omega

/-- The year in UTC, by the seconds of the instant. -/
theorem le_year_utc_iff (t : Moment) (year : Int) :
    year ≤ t.utc.date.year ↔ Date.yearStart year * daySeconds ≤ t.unix := by
  rw [utc, ofUnix]
  simp only [Date.le_year_ofDayNumber_iff, daySeconds]
  omega

/-- The year that a moment shows, by the seconds of the instant and the offset. -/
theorem Proper.le_year_iff (h : t.Proper) (year : Int) :
    year ≤ t.date.year ↔ Date.yearStart year * daySeconds ≤ t.unix + t.offset := by
  have hsecond := h.second_lt
  rw [Date.le_year_iff h.real]
  simp only [unix, daySeconds] at hsecond ⊢
  omega

/-- In UTC, a moment at no offset is in the year that it shows. -/
theorem Proper.year_utc (h : t.Proper) (hoffset : t.offset = 0) :
    t.utc.date.year = t.date.year := by
  have hsame (year : Int) : year ≤ t.utc.date.year ↔ year ≤ t.date.year := by
    rw [le_year_utc_iff, h.le_year_iff, hoffset, Int.add_zero]
  exact Int.le_antisymm ((hsame _).mp (Int.le_refl _)) ((hsame _).mpr (Int.le_refl _))

end Moment

end ProxyTrust
