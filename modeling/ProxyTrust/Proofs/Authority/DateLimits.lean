/-
  The moments at which an authority can be made.

  1. **Range** — a day before the moment and its expiry must be in the range of years.  The
     fallback of 3650 days is for a year that is not in the range, but ten years have two or three
     leap days: it reaches a date in the range from the first two days of 9990 alone
     (`expiry_cases`).

  2. **Forms** — the form of a written time goes by the local year, what is written is in UTC.  A
     time can be written exactly if its form holds the year in UTC (`timeElement_cases`).  The two
     years differ for some hours at the turn of a year, and it matters where one form gives way to
     the other: at the ends of 1949 and 2049.

  3. **Generation** — nothing else stops it (`generate_cases_of_range`, `Dates.generate_cases`):
     neither the draw nor the length of what is written has a part in it.  Hence the two crashes
     and the success exclude each other, and each has its own condition on the moment alone.

  4. **In UTC** — there every year from zero on has a form, so that the days at which an authority
     can be made are a range.  `generate_crashes_iff` puts all of it together.
-/
import ProxyTrust.Proofs.Authority.Expiry

namespace ProxyTrust.Authority

open Date (yearStart)

variable {draw : Draw} {now t first last : Moment} {crash : Crash}

/-! ## Range -/

/-- A moment some days away, if the day's number is in the range. -/
theorem shift_cases (now : Moment) (days : Int) :
    (shift now days = .ok (now.addDays days) ∧ yearStart (-9999) ≤ now.date.dayNumber + days
      ∧ now.date.dayNumber + days < yearStart 10000)
    ∨ (shift now days = .error .dateRange ∧ ¬ (yearStart (-9999) ≤ now.date.dayNumber + days
      ∧ now.date.dayNumber + days < yearStart 10000)) := by
  have hrange : (now.addDays days).date.inRange = true ↔ _ := Date.inRange_ofDayNumber_iff _
  rw [shift]
  split
  · next hin => exact .inl ⟨rfl, hrange.mp hin⟩
  · next hout => exact .inr ⟨rfl, fun h => hout (hrange.mpr h)⟩

/-- A moment that cannot be shifted is out of the range of dates, and nothing else is wrong with
    it. -/
theorem crash_of_shift {days : Int} (h : shift now days = .error crash) : crash = .dateRange := by
  rcases shift_cases now days with ⟨hlater, -⟩ | ⟨hlater, -⟩
  · nomatch hlater.symm.trans h
  · exact Except.error.inj (h.symm.trans hlater)

/-- The same for the expiry: of its two ways to a date, only the shift can fail. -/
theorem crash_of_expiry (h : expiry now = .error crash) : crash = .dateRange := by
  rw [expiry_eq] at h
  split at h
  · nomatch h
  · exact crash_of_shift h

/-- The number of a date in the range of years. -/
theorem dayNumber_range (hnow : now.Proper) :
    yearStart (-9999) ≤ now.date.dayNumber ∧ now.date.dayNumber < yearStart 10000 := by
  have hrange := Date.inRange_iff.mp hnow.inRange
  have hlow := Date.le_year_iff hnow.real (-9999)
  have hhigh := Date.le_year_iff hnow.real 10000
  omega

/-- There is a day before every one but the first. -/
theorem dayBefore_cases (hnow : now.Proper) :
    (shift now (-1) = .ok (now.addDays (-1)) ∧ Date.dayNumber ⟨-9999, 1, 1⟩ < now.date.dayNumber)
    ∨ (shift now (-1) = .error .dateRange ∧ now.date.dayNumber ≤ Date.dayNumber ⟨-9999, 1, 1⟩) := by
  have hstart : yearStart (-9999) = Date.dayNumber ⟨-9999, 1, 1⟩ := by decide
  obtain ⟨hlow, hhigh⟩ := dayNumber_range hnow
  rcases shift_cases now (-1) with ⟨hbefore, hin⟩ | ⟨hbefore, hout⟩
  · exact .inl ⟨hbefore, by omega⟩
  · exact .inr ⟨hbefore, by omega⟩

/-- Up to 2 January 9990 there is a date of expiry. -/
theorem expiry_cases (hnow : now.Proper) :
    ((∃ last, expiry now = .ok last) ∧ now.date.dayNumber ≤ Date.dayNumber ⟨9990, 1, 2⟩)
    ∨ (expiry now = .error .dateRange ∧ Date.dayNumber ⟨9990, 1, 2⟩ < now.date.dayNumber) := by
  have hfirst : yearStart 9990 = Date.dayNumber ⟨9990, 1, 2⟩ - 1 := by decide
  have hlast : yearStart 10000 = Date.dayNumber ⟨9990, 1, 2⟩ + 3651 := by decide
  have hyear := Date.le_year_iff hnow.real 9990
  obtain ⟨hlow, hhigh⟩ := dayNumber_range hnow
  rw [expiry_eq]
  by_cases hin : now.date.year + 10 ≤ 9999
  · rw [anniversary?_eq_some hnow hin]
    exact .inl ⟨⟨_, rfl⟩, by omega⟩
  -- both attempts leave the range of years, and so does the fallback, but for two days of 3652
  · rw [anniversary?_eq_none (Int.not_le.mp hin)]
    have hdays : (365 * validityYears : Int) = 3650 := rfl
    rcases shift_cases now (365 * validityYears) with ⟨hlater, hin⟩ | ⟨hlater, hout⟩
    · exact .inl ⟨⟨_, hlater⟩, by omega⟩
    · exact .inr ⟨hlater, by omega⟩

/-! ## Forms -/

/-- The form that the local year asks for holds the year in UTC: two digits from 1950 to 2049,
    four digits otherwise. -/
def HasForm (t : Moment) : Prop :=
  if 1950 ≤ t.date.year ∧ t.date.year < 2050 then 1950 ≤ t.utc.date.year ∧ t.utc.date.year < 2050
  else 0 ≤ t.utc.date.year ∧ t.utc.date.year < 10000

instance (t : Moment) : Decidable (HasForm t) := by
  unfold HasForm
  infer_instance

/-- The years that the form of a time can hold, by its local year: those written with two digits
    between 1950 and 2049, else those of four digits. -/
theorem holdsYear_formOf_iff (t : Moment) (year : Int) :
    (X509.formOf t).holdsYear year = true ↔
      if 1950 ≤ t.date.year ∧ t.date.year < 2050 then 1950 ≤ year ∧ year < 2050
      else 0 ≤ year ∧ year < 10000 := by
  have hlocal : X509.TimeForm.utc.holdsYear t.date.year = true
      ↔ 1950 ≤ t.date.year ∧ t.date.year < 2050 := by
    simp only [X509.TimeForm.holdsYear, Bool.and_eq_true, decide_eq_true_eq]
  unfold X509.formOf
  by_cases h : X509.TimeForm.utc.holdsYear t.date.year = true
  · rw [if_pos h, if_pos (hlocal.mp h)]
    simp only [X509.TimeForm.holdsYear, Bool.and_eq_true, decide_eq_true_eq]
  · rw [if_neg h, if_neg (h ∘ hlocal.mpr)]
    simp only [X509.TimeForm.holdsYear, Bool.and_eq_true, decide_eq_true_eq]

/-- A time that has a form is one that the calendar can show. -/
theorem HasForm.inRange (h : HasForm t) : t.utc.date.inRange = true := by
  unfold HasForm at h
  rw [Date.inRange_iff]
  split at h <;> omega

/-- A time is written exactly if it has a form. -/
theorem timeElement_cases (t : Moment) :
    ((∃ bytes, timeElement t = .ok bytes) ∧ HasForm t)
      ∨ (timeElement t = .error .timeForm ∧ ¬ HasForm t) := by
  have hholds : (X509.formOf t).holdsYear t.utc.date.year = true ↔ HasForm t :=
    holdsYear_formOf_iff t _
  unfold timeElement X509.writeTime?
  dsimp only
  by_cases hform : HasForm t
  · simp only [hform.inRange, hholds.mpr hform, Bool.and_self, if_true]
    exact .inl ⟨⟨_, rfl⟩, hform⟩
  · rw [Bool.eq_false_iff.mpr (hform ∘ hholds.mp), Bool.and_false]
    exact .inr ⟨rfl, hform⟩

/-- In UTC every year from zero on has a form. -/
theorem hasForm_iff_of_utc (ht : t.Proper) (hoffset : t.offset = 0) : HasForm t
    ↔ 0 ≤ t.date.year := by
  have hrange := Date.inRange_iff.mp ht.inRange
  unfold HasForm
  rw [ht.year_utc hoffset]
  split <;> omega

/-! ## Generation -/

/-- The two dates of an authority, where the calendar has them. -/
structure Dates (now first last : Moment) : Prop where
  first : shift now (-1) = .ok first
  last : expiry now = .ok last

/-- Out of the range of years a generation crashes. -/
theorem generate_cases_of_range (hnow : now.Proper) (draw : Draw) :
    ((∃ first last, Dates now first last)
      ∧ Date.dayNumber ⟨-9999, 1, 1⟩ < now.date.dayNumber
        ∧ now.date.dayNumber ≤ Date.dayNumber ⟨9990, 1, 2⟩)
    ∨ (generate draw now = .error .dateRange ∧ (¬ ∃ first last, Dates now first last)
      ∧ (now.date.dayNumber ≤ Date.dayNumber ⟨-9999, 1, 1⟩
        ∨ Date.dayNumber ⟨9990, 1, 2⟩ < now.date.dayNumber)) := by
  rcases dayBefore_cases hnow with ⟨hfirst, hlow⟩ | ⟨hfirst, hlow⟩
  · rcases expiry_cases hnow with ⟨⟨last, hlast⟩, hhigh⟩ | ⟨hlast, hhigh⟩
    · exact .inl ⟨⟨_, last, hfirst, hlast⟩, hlow, hhigh⟩
    · refine .inr ⟨?_, ?_, .inr hhigh⟩
      · exact bind_eq_error_iff.mpr (.inr ⟨_, hfirst, bind_eq_error_iff.mpr (.inl hlast)⟩)
      · rintro ⟨first, last, hdates⟩
        nomatch hlast.symm.trans hdates.last
  · refine .inr ⟨bind_eq_error_iff.mpr (.inl hfirst), ?_, .inl hlow⟩
    rintro ⟨first, last, hdates⟩
    nomatch hfirst.symm.trans hdates.first

/-- A certificate is written exactly if both of its dates have a form. -/
theorem certify_cases (draw : Draw) (first last : Moment) :
    ((∃ certificate, certify draw first last = .ok certificate) ∧ HasForm first ∧ HasForm last)
    ∨ (certify draw first last = .error .timeForm ∧ ¬ (HasForm first ∧ HasForm last)) := by
  rcases timeElement_cases first with ⟨⟨bytes, hbytes⟩, hfirst⟩ | ⟨hcrash, hfirst⟩
  · rcases timeElement_cases last with ⟨⟨more, hmore⟩, hlast⟩ | ⟨hcrash, hlast⟩
    · exact .inl ⟨⟨_, bind_eq_ok_iff.mpr ⟨bytes, hbytes, bind_eq_ok_iff.mpr ⟨more, hmore, rfl⟩⟩⟩,
        hfirst, hlast⟩
    · have hstopped : certify draw first last = .error .timeForm :=
        bind_eq_error_iff.mpr (.inr ⟨bytes, hbytes, bind_eq_error_iff.mpr (.inl hcrash)⟩)
      exact .inr ⟨hstopped, fun hforms => hlast hforms.2⟩
  · exact .inr ⟨bind_eq_error_iff.mpr (.inl hcrash), fun hforms => hfirst hforms.1⟩

/-- With its dates, a generation ends with material or with a date that has no form. -/
theorem Dates.generate_cases (hdates : Dates now first last) (draw : Draw) :
    ((∃ m, generate draw now = .ok m) ∧ HasForm first ∧ HasForm last)
    ∨ (generate draw now = .error .timeForm ∧ ¬ (HasForm first ∧ HasForm last)) := by
  rcases certify_cases draw first last with ⟨⟨certificate, hwritten⟩, hforms⟩ | ⟨hcrash, hforms⟩
  · exact .inl ⟨⟨_, bind_eq_ok_iff.mpr ⟨first, hdates.first,
      bind_eq_ok_iff.mpr ⟨last, hdates.last, bind_eq_ok_iff.mpr ⟨certificate, hwritten, rfl⟩⟩⟩⟩,
        hforms⟩
  · refine .inr ⟨bind_eq_error_iff.mpr (.inr ⟨first, hdates.first, ?_⟩), hforms⟩
    exact bind_eq_error_iff.mpr (.inr ⟨last, hdates.last, bind_eq_error_iff.mpr (.inl hcrash)⟩)

/-- The range of dates is left by the day before the first one of all, or by an expiry after the
    last one: up to the year 9989 the same date is there, and the fallback adds two days of
    9990. -/
theorem generate_dateRange_iff (hnow : now.Proper) (draw : Draw) :
    generate draw now = .error .dateRange ↔
      now.date.dayNumber ≤ Date.dayNumber ⟨-9999, 1, 1⟩
        ∨ Date.dayNumber ⟨9990, 1, 2⟩ < now.date.dayNumber := by
  rcases generate_cases_of_range hnow draw
    with ⟨⟨first, last, hdates⟩, hlow, hhigh⟩ | ⟨hcrash, -, hout⟩
  · refine iff_of_false (fun hcrash => ?_) (by omega)
    rcases hdates.generate_cases draw with ⟨⟨m, hm⟩, -⟩ | ⟨hform, -⟩
    · nomatch hm.symm.trans hcrash
    · nomatch hform.symm.trans hcrash
  · exact iff_of_true hcrash hout

/-- A time has no form where both dates are there and one of them does not fit its form. -/
theorem generate_timeForm_iff (hnow : now.Proper) (draw : Draw) :
    generate draw now = .error .timeForm ↔
      ∃ first last, Dates now first last ∧ ¬ (HasForm first ∧ HasForm last) := by
  constructor
  · intro hcrash
    rcases generate_cases_of_range hnow draw with ⟨⟨first, last, hdates⟩, -⟩ | ⟨hrange, -⟩
    · rcases hdates.generate_cases draw with ⟨⟨m, hm⟩, -⟩ | ⟨-, hforms⟩
      · nomatch hm.symm.trans hcrash
      · exact ⟨first, last, hdates, hforms⟩
    · nomatch hrange.symm.trans hcrash
  · rintro ⟨first, last, hdates, hforms⟩
    rcases hdates.generate_cases draw with ⟨-, hboth⟩ | ⟨hcrash, -⟩
    · exact absurd hboth hforms
    · exact hcrash

/-- An authority is generated exactly if both dates are there and have a form. -/
theorem generate_ok_iff (hnow : now.Proper) (draw : Draw) :
    (∃ m, generate draw now = .ok m)
      ↔ ∃ first last, Dates now first last ∧ HasForm first ∧ HasForm last := by
  constructor
  · rintro ⟨m, hm⟩
    rcases generate_cases_of_range hnow draw with ⟨⟨first, last, hdates⟩, -⟩ | ⟨hrange, -⟩
    · rcases hdates.generate_cases draw with ⟨-, hforms⟩ | ⟨hcrash, -⟩
      · exact ⟨first, last, hdates, hforms⟩
      · nomatch hm.symm.trans hcrash
    · nomatch hm.symm.trans hrange
  · rintro ⟨first, last, hdates, hforms⟩
    rcases hdates.generate_cases draw with ⟨hmade, -⟩ | ⟨-, hnone⟩
    · exact hmade
    · exact absurd hforms hnone

/-- Nothing else stops a generation, at whatever moment. -/
theorem crash_of_generate (h : generate draw now = .error crash) :
    crash = .dateRange ∨ crash = .timeForm := by
  rcases bind_eq_error_iff.mp h with hfirst | ⟨first, hfirst, h⟩
  · exact .inl (crash_of_shift hfirst)
  rcases bind_eq_error_iff.mp h with hlast | ⟨last, hlast, h⟩
  · exact .inl (crash_of_expiry hlast)
  rcases bind_eq_error_iff.mp h with hwritten | ⟨certificate, -, h⟩
  · rcases certify_cases draw first last with ⟨⟨certificate, hmade⟩, -⟩ | ⟨hcrash, -⟩
    · nomatch hmade.symm.trans hwritten
    · exact .inr (Except.error.inj (hwritten.symm.trans hcrash))
  · nomatch h

/-! ## In UTC -/

/-- A later moment of the same clock. -/
structure Later (now later : Moment) : Prop where
  proper : later.Proper
  offset : later.offset = now.offset
  day : now.date.dayNumber ≤ later.date.dayNumber

/-- An expiry, where there is one, is later than the moment. -/
theorem later_of_expiry (hnow : now.Proper) (h : expiry now = .ok last) : Later now last := by
  rw [expiry_eq] at h
  by_cases hin : now.date.year + 10 ≤ 9999
  · rw [anniversary?_eq_some hnow hin] at h
    obtain rfl := Except.ok.inj h
    have hdays := (Date.dayNumber_tenYearsLater hnow.real).1
    have hday : now.date.dayNumber ≤ now.date.tenYearsLater.dayNumber := by omega
    exact ⟨proper_tenYearsLater hnow hin, rfl, hday⟩
  · rw [anniversary?_eq_none (Int.not_le.mp hin)] at h
    obtain ⟨hrange, rfl⟩ := shift_eq_ok_iff.mp h
    refine ⟨hnow.addDays hrange, Moment.offset_addDays now _, ?_⟩
    rw [Moment.addDays, Date.dayNumber_ofDayNumber]
    exact Int.le_add_of_nonneg_right (by decide)

/-- In UTC both dates have a form exactly if the first of them is not before the year zero. -/
theorem Dates.hasForm_iff_of_utc (hdates : Dates now first last) (hnow : now.Proper)
    (hoffset : now.offset = 0) :
    HasForm first ∧ HasForm last ↔ Date.dayNumber ⟨0, 1, 2⟩ ≤ now.date.dayNumber := by
  have hzero : yearStart 0 = Date.dayNumber ⟨0, 1, 2⟩ - 1 := by decide
  obtain ⟨hrange, rfl⟩ := shift_eq_ok_iff.mp hdates.first
  have hlater := later_of_expiry hnow hdates.last
  have hproper := hnow.addDays hrange
  have hday : (now.addDays (-1)).date.dayNumber = now.date.dayNumber + -1 :=
    Date.dayNumber_ofDayNumber _
  have hlast := hlater.day
  have hfirst := (Moment.offset_addDays now (-1)).trans hoffset
  rw [Authority.hasForm_iff_of_utc hproper hfirst, Authority.hasForm_iff_of_utc hlater.proper
    (hlater.offset.trans hoffset), Date.le_year_iff hproper.real,
      Date.le_year_iff hlater.proper.real, hday]
  omega

/-- In UTC the days at which an authority can be generated are a range. -/
theorem generate_ok_iff_of_utc (hnow : now.Proper) (draw : Draw) (hoffset : now.offset = 0) :
    (∃ m, generate draw now = .ok m) ↔
      Date.dayNumber ⟨0, 1, 2⟩ ≤ now.date.dayNumber
        ∧ now.date.dayNumber ≤ Date.dayNumber ⟨9990, 1, 2⟩ := by
  have hyears : Date.dayNumber ⟨-9999, 1, 1⟩ < Date.dayNumber ⟨0, 1, 2⟩ := by decide
  rw [generate_ok_iff hnow]
  rcases generate_cases_of_range hnow draw with ⟨⟨first, last, hdates⟩, -, hhigh⟩ | ⟨-, hnone, hout⟩
  · have hutc := hdates.hasForm_iff_of_utc hnow hoffset
    constructor
    · rintro ⟨first', last', hdates', hforms⟩
      exact ⟨(hdates'.hasForm_iff_of_utc hnow hoffset).mp hforms, hhigh⟩
    · rintro ⟨hlow, -⟩
      exact ⟨first, last, hdates, hutc.mpr hlow⟩
  · refine iff_of_false ?_ (by omega)
    rintro ⟨first, last, hdates, -⟩
    exact hnone ⟨first, last, hdates⟩

/-! ## All of it -/

/-- When a generation crashes.  The range of years is left on the first day and from 3 January
    9990 on; in between, the dates must have forms, and nothing else can fail.  In UTC this leaves
    the days from 2 January of the year zero to 2 January 9990. -/
theorem generate_crashes_iff (hnow : now.Proper) (draw : Draw) :
    (generate draw now = .error .dateRange ↔
      now.date.dayNumber ≤ Date.dayNumber ⟨-9999, 1, 1⟩
        ∨ Date.dayNumber ⟨9990, 1, 2⟩ < now.date.dayNumber)
    ∧ (generate draw now = .error .timeForm ↔
      ∃ first last, Dates now first last ∧ ¬ (HasForm first ∧ HasForm last))
    ∧ (∀ crash, generate draw now = .error crash → crash = .dateRange ∨ crash = .timeForm)
    ∧ (now.offset = 0 → ((∃ m, generate draw now = .ok m) ↔
      Date.dayNumber ⟨0, 1, 2⟩ ≤ now.date.dayNumber
        ∧ now.date.dayNumber ≤ Date.dayNumber ⟨9990, 1, 2⟩)) :=
  ⟨generate_dateRange_iff hnow draw, generate_timeForm_iff hnow draw, fun _ => crash_of_generate,
    generate_ok_iff_of_utc hnow draw⟩

/-- Half past eleven in the evening of the last day of 2039, an hour west of UTC. -/
def westNow : Moment := ⟨⟨2039, 12, 31⟩, 84600, 0, -3600⟩

theorem westNow_proper : westNow.Proper := ⟨by decide, by decide, by decide⟩

/-- The expiry is in 2049 by its own clock and in 2050 in UTC. -/
theorem westNow_dates :
    Dates westNow ⟨⟨2039, 12, 30⟩, 84600, 0, -3600⟩ ⟨⟨2049, 12, 31⟩, 84600, 0, -3600⟩ := by
  refine ⟨shift_eq_ok_iff.mpr ⟨by decide +kernel, by decide +kernel⟩, ?_⟩
  rw [expiry_eq, anniversary?_eq_some westNow_proper (by decide)]
  rfl

/-- The last half hour of a year, an hour west: in UTC the year is the next one, which two digits
    do not hold. -/
theorem westNow_noForm :
    ¬ (HasForm ⟨⟨2039, 12, 30⟩, 84600, 0, -3600⟩ ∧ HasForm ⟨⟨2049, 12, 31⟩, 84600, 0, -3600⟩) := by
  decide +kernel

/-- An hour west of UTC and in UTC, at the same instant. -/
theorem generate_crashes_iff_west :
    westNow.Proper ∧ westNow.utc.Proper
      ∧ generate earlyDraw westNow = .error .timeForm
      ∧ ∃ m, generate earlyDraw westNow.utc = .ok m := by
  have hutc : westNow.utc.Proper := ⟨by decide +kernel, by decide +kernel, by decide +kernel⟩
  obtain ⟨-, hform, -, -⟩ := generate_crashes_iff westNow_proper earlyDraw
  obtain ⟨-, -, -, hmade⟩ := generate_crashes_iff hutc earlyDraw
  exact ⟨westNow_proper, hutc, hform.mpr ⟨_, _, westNow_dates, westNow_noForm⟩,
    (hmade rfl).mpr (by decide +kernel)⟩

/-- No key, serial number or signature saves a generation on the first day of all, in the last ten
    years, or at an offset that takes an expiry of 2049 to 2050. -/
theorem generate_crashes :
    (∀ draw, generate draw ⟨⟨-9999, 1, 1⟩, 0, 0, 0⟩ = .error .dateRange)
      ∧ (∀ draw, generate draw ⟨⟨9999, 1, 1⟩, 0, 0, 0⟩ = .error .dateRange)
      ∧ ∀ draw, generate draw westNow = .error .timeForm := by
  have hproper (year : Int) (hyear : Date.inRange ⟨year, 1, 1⟩ = true) :
      Moment.Proper ⟨⟨year, 1, 1⟩, 0, 0, 0⟩ := ⟨rfl, hyear, Nat.succ_pos 86399⟩
  refine ⟨fun draw => ?_, fun draw => ?_, fun draw => ?_⟩
  · exact (generate_dateRange_iff (hproper _ (by decide)) draw).mpr (.inl (Int.le_refl _))
  · exact (generate_dateRange_iff (hproper _ (by decide)) draw).mpr (.inr (by decide))
  · exact (generate_timeForm_iff westNow_proper draw).mpr ⟨_, _, westNow_dates, westNow_noForm⟩

end ProxyTrust.Authority
