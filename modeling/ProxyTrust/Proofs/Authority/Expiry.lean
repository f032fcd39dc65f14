/-
  The ten years of an authority.

  1. **The same date** — another year or another day is given exactly if the calendar has the
     date.  Of the two attempts at the date ten years later, the first fails on a 29 February and
     on no other date, for no leap year is ten years after another; the second then succeeds.
     Both fail exactly if the year leaves the range (`anniversary?_eq_some`,
     `anniversary?_eq_none`).

  2. **Days** — what ten years come to in days is counted in `Proofs.Calendar.Years`, over dates.
     An instant is a day number and a time of day, and the time of day and the offset stay as they
     are, so that the bounds carry over (`instant_tenYearsLater`).

  3. **The window** — `expiry_ten_years_later`: up to the local year 9989 the fallback of 3650
     days is not used, and from a day before the moment to its expiry there are at least 3652
     days.
-/
import ProxyTrust.Proofs.Authority.Material
import ProxyTrust.Proofs.Calendar.Years

namespace ProxyTrust

/-! ## The same date -/

namespace Moment

variable {t later : Moment}

/-- Another year is given exactly if the calendar has the date and the range has the year. -/
theorem withYear?_eq_some_iff {year : Int} :
    t.withYear? year = some later ↔ ({ t.date with year } : Date).isReal = true
      ∧ ({ t.date with year } : Date).inRange = true
        ∧ later = { t with date := { t.date with year } } := by
  unfold withYear?
  simp only [Option.ite_none_right_eq_some, Bool.and_eq_true, Option.some.injEq, and_assoc]
  exact and_congr_right fun _ => and_congr_right fun _ => eq_comm

/-- Another day is given exactly if the month has it. -/
theorem withDay?_eq_some_iff {day : Nat} :
    t.withDay? day = some later ↔ ({ t.date with day } : Date).isReal = true
      ∧ later = { t with date := { t.date with day } } := by
  unfold withDay?
  simp only [Option.ite_none_right_eq_some, Option.some.injEq]
  exact and_congr_right fun _ => eq_comm

end Moment

namespace Authority

open Date (isLeap_add_ten isLeap_of_isReal isReal_tenYearsLater dayNumber_tenYearsLater)
open Moment (dayNanos instant_onDate withYear?_eq_some_iff withDay?_eq_some_iff)

variable {draw : Draw} {now before later : Moment} {m : Material}

/-- A moment on the date ten years later, 28 February instead of the 29th. -/
def tenYearsLater (t : Moment) : Moment := { t with date := t.date.tenYearsLater }

/-- What the two attempts at this date give, without the fallback. -/
def anniversary? (t : Moment) : Option Moment :=
  (t.withYear? (t.date.year + validityYears)).or
    ((t.withDay? 28).bind (·.withYear? (t.date.year + validityYears)))

/-- The expiry is the same date ten years later, or a shift by 3650 days where there is none. -/
theorem expiry_eq (t : Moment) :
    expiry t = match anniversary? t with
      | some later => .ok later
      | none => shift t (365 * validityYears) := by
  unfold expiry anniversary?
  dsimp only
  cases t.withYear? (t.date.year + validityYears) with
  | some later => rfl
  | none => cases (t.withDay? 28).bind (·.withYear? (t.date.year + validityYears)) <;> rfl

/-- A moment that exists, ten years later, as far as the range of years goes. -/
theorem proper_tenYearsLater (hnow : now.Proper) (hyear : now.date.year + 10 ≤ 9999) :
    (tenYearsLater now).Proper := by
  obtain ⟨hlow, -⟩ := Date.inRange_iff.mp hnow.inRange
  refine ⟨isReal_tenYearsLater hnow.real, Date.inRange_iff.mpr ⟨?_, hyear⟩, hnow.second_lt⟩
  show -9999 ≤ now.date.year + 10
  omega

/-- On a 29 February there is no such date ten years later. -/
theorem withYear?_eq_none (hnow : now.Proper) (hmonth : now.date.month = 2)
    (hday : now.date.day = 29) : now.withYear? (now.date.year + validityYears) = none := by
  have hcommon := isLeap_add_ten (isLeap_of_isReal hnow.real hmonth hday)
  refine Option.eq_none_iff_forall_ne_some.mpr fun later hlater => ?_
  obtain ⟨hreal, -, -⟩ := withYear?_eq_some_iff.mp hlater
  rw [show now.date.year + validityYears = now.date.year + 10 from rfl] at hreal
  exact absurd (isLeap_of_isReal hreal hmonth hday) (by rw [hcommon]; exact Bool.false_ne_true)

/-- On every other date there is. -/
theorem withYear?_eq_some (hnow : now.Proper) (hyear : now.date.year + 10 ≤ 9999)
    (hday : ¬ (now.date.month = 2 ∧ now.date.day = 29)) :
    now.withYear? (now.date.year + validityYears) = some (tenYearsLater now) := by
  have hlater := proper_tenYearsLater hnow hyear
  have hsame :
      now.date.tenYearsLater = { now.date with year := now.date.year + validityYears } := by
    rw [Date.tenYearsLater, if_neg hday]
    rfl
  rw [tenYearsLater, hsame] at hlater ⊢
  exact withYear?_eq_some_iff.mpr ⟨hlater.real, hlater.inRange, rfl⟩

/-- Up to the year 9989 one of the two attempts succeeds, with the 28th for the 29 February. -/
theorem anniversary?_eq_some (hnow : now.Proper) (hyear : now.date.year + 10 ≤ 9999) :
    anniversary? now = some (tenYearsLater now) := by
  unfold anniversary?
  by_cases hday : now.date.month = 2 ∧ now.date.day = 29
  · -- the second attempt starts from 28 February, which every year has
    have hclamped : now.withDay? 28 = some { now with date := { now.date with day := 28 } } := by
      refine withDay?_eq_some_iff.mpr ⟨?_, rfl⟩
      obtain ⟨hlow, hhigh, -, hlast⟩ := Date.isReal_iff.mp hnow.real
      rw [hday.2] at hlast
      have hclamp : 28 ≤ Date.monthLength now.date.year now.date.month :=
        Nat.le_trans (by decide) hlast
      exact Date.isReal_iff.mpr ⟨hlow, hhigh, show 1 ≤ 28 by decide, hclamp⟩
    have hlater := proper_tenYearsLater hnow hyear
    have hsame : now.date.tenYearsLater = ⟨now.date.year + validityYears, now.date.month, 28⟩ := by
      rw [Date.tenYearsLater, if_pos hday]
      rfl
    rw [withYear?_eq_none hnow hday.1 hday.2, hclamped]
    rw [tenYearsLater, hsame] at hlater ⊢
    exact withYear?_eq_some_iff.mpr ⟨hlater.real, hlater.inRange, rfl⟩
  · rw [withYear?_eq_some hnow hyear hday]
    rfl

/-- Outside the range of years, both attempts fail. -/
theorem anniversary?_eq_none (hyear : 9999 < now.date.year + 10) : anniversary? now = none := by
  have hfails (t : Moment) : t.withYear? (now.date.year + validityYears) = none := by
    refine Option.eq_none_iff_forall_ne_some.mpr fun later hlater => ?_
    obtain ⟨-, hrange, -⟩ := withYear?_eq_some_iff.mp hlater
    exact absurd (Date.inRange_iff.mp hrange).2 (Int.not_le.mpr hyear)
  unfold anniversary?
  simp only [hfails, Option.none_or]
  cases now.withDay? 28 <;> rfl

/-! ## The window -/

/-- A moment between two others, a day after the one and about ten years before the other. -/
structure Window (before now later : Moment) : Prop where
  day : before.instant + dayNanos = now.instant
  starts : before.instant < now.instant
  ends : now.instant < later.instant
  days : before.instant + 3652 * dayNanos ≤ later.instant

/-- A moment is shifted exactly if the date it comes to is in the range. -/
theorem shift_eq_ok_iff {days : Int} :
    shift now days = .ok later
      ↔ (now.addDays days).date.inRange = true ∧ later = now.addDays days := by
  unfold shift
  dsimp only
  split
  · next hrange =>
    rw [and_iff_right hrange]
    exact ⟨fun h => (Except.ok.inj h).symm, fun h => congrArg _ h.symm⟩
  · next hrange => exact iff_of_false (fun h => nomatch h) fun h => hrange h.1

/-- A shift by days moves the instant by that many days. -/
theorem instant_of_shift {days : Int} (h : shift now days = .ok later) :
    later.instant = now.instant + days * dayNanos := by
  obtain ⟨-, rfl⟩ := shift_eq_ok_iff.mp h
  have hdays : now.date.dayNumber + days - now.date.dayNumber = days := by omega
  rw [Moment.addDays, instant_onDate, Date.dayNumber_ofDayNumber, hdays]

/-- Ten years are 3651 to 3653 days: two leap days or three, and one less if it was the 29th. -/
theorem instant_tenYearsLater (hnow : now.Proper) :
    now.instant + 3651 * dayNanos ≤ (tenYearsLater now).instant
      ∧ (tenYearsLater now).instant ≤ now.instant + 3653 * dayNanos := by
  have hdays := dayNumber_tenYearsLater hnow.real
  have hnanos : dayNanos = 86400000000000 := rfl
  rw [tenYearsLater, instant_onDate now now.date.tenYearsLater, hnanos]
  omega

/-- The window from a day before the moment to ten years after it. -/
theorem window_tenYearsLater (hnow : now.Proper) (hbefore : shift now (-1) = .ok before) :
    Window before now (tenYearsLater now) := by
  have hday := instant_of_shift hbefore
  have hyears := (instant_tenYearsLater hnow).1
  have hnanos : dayNanos = 86400000000000 := rfl
  constructor <;> omega

/-- Up to the year 9989, whatever the offset and the time of day are, an authority expires at the
    same time of day, at the same offset, on the same date ten years later, and on 28 February if
    that is the 29th.  The first attempt at the date fails on a 29 February alone, one of the two
    always succeeds, and the fallback is not used.  The moment and its expiry are 3651 to 3653
    days apart, and the authority is valid from a day before the moment, if there is such a day,
    for at least 3652 days. -/
theorem expiry_ten_years_later (hnow : now.Proper) (hyear : now.date.year + 10 ≤ 9999) :
    ∃ later,
      later = { now with date := ⟨now.date.year + 10, now.date.month,
        if now.date.month = 2 ∧ now.date.day = 29 then 28 else now.date.day⟩ }
      ∧ later.Proper
      ∧ (now.withYear? (now.date.year + 10) = none ↔ now.date.month = 2 ∧ now.date.day = 29)
      ∧ anniversary? now = some later
      ∧ expiry now = .ok later
      ∧ now.instant + 3651 * dayNanos ≤ later.instant
      ∧ later.instant ≤ now.instant + 3653 * dayNanos
      ∧ (∀ before, shift now (-1) = .ok before → Window before now later)
      ∧ ∀ draw m, generate draw now = .ok m → m.notAfter = later
        ∧ Window m.notBefore now m.notAfter := by
  have hanniversary := anniversary?_eq_some hnow hyear
  have hexpiry : expiry now = .ok (tenYearsLater now) := by rw [expiry_eq, hanniversary]
  obtain ⟨hlow, hhigh⟩ := instant_tenYearsLater hnow
  refine ⟨tenYearsLater now, rfl, proper_tenYearsLater hnow hyear, ?_, hanniversary, hexpiry,
    hlow, hhigh, fun before => window_tenYearsLater hnow, fun draw m hm => ?_⟩
  · -- the first attempt fails on a 29 February, and on no other date
    constructor
    · intro hnone
      refine Decidable.byContradiction fun hday => ?_
      have hsome := withYear?_eq_some hnow hyear hday
      nomatch hnone.symm.trans hsome
    · rintro ⟨hmonth, hday⟩
      exact withYear?_eq_none hnow hmonth hday
  · -- the material holds the two dates that were worked out
    obtain ⟨first, last, hparts⟩ := generate_eq_ok hm
    have hafter : m.notAfter = tenYearsLater now :=
      Except.ok.inj (hparts.notAfter.symm.trans hexpiry)
    exact ⟨hafter, hafter ▸ window_tenYearsLater hnow hparts.notBefore⟩

/-- The last nanosecond of 29 February 1896, at the offset farthest east. -/
def leapNow : Moment := ⟨⟨1896, 2, 29⟩, 86399, 999999999, 93599⟩

theorem leapNow_proper : leapNow.Proper := ⟨by decide, by decide, by decide⟩

/-- From 1896 to 1906 there is one leap day less than usual. -/
theorem expiry_ten_years_later_leap :
    leapNow.Proper ∧ leapNow.date.year + 10 ≤ 9999
      ∧ expiry leapNow = .ok ⟨⟨1906, 2, 28⟩, 86399, 999999999, 93599⟩
      ∧ leapNow.withYear? 1906 = none
      ∧ ∃ before, shift leapNow (-1) = .ok before
        ∧ Window before leapNow ⟨⟨1906, 2, 28⟩, 86399, 999999999, 93599⟩ := by
  obtain ⟨later, hlater, -, hfirst, -, hexpiry, -, -, hwindow, -⟩ :=
    expiry_ten_years_later leapNow_proper (by decide)
  have hbefore : shift leapNow (-1) = .ok ⟨⟨1896, 2, 28⟩, 86399, 999999999, 93599⟩ :=
    shift_eq_ok_iff.mpr ⟨by decide +kernel, by decide +kernel⟩
  have hdate : later = ⟨⟨1906, 2, 28⟩, 86399, 999999999, 93599⟩ := hlater
  rw [hdate] at hexpiry hwindow
  exact ⟨leapNow_proper, by decide, hexpiry, hfirst.mpr ⟨rfl, rfl⟩, _, hbefore, hwindow _ hbefore⟩

end Authority

end ProxyTrust
