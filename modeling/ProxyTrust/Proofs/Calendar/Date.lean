/-
  Day numbers and dates, there and back.

  1. **The months of a year** — `monthOfDay` goes through the months in order and takes the length
     of each away.  The invariant is the count of days before the month that it has come to
     (`monthOfDay_spec`): this count and the days that are left make up the day that it began
     with.

  2. **The years of a cycle** — a cycle of 146097 days is cut into centuries, spans of four years
     and single years.  The last day of a span or of a cycle has no year of its own in this
     division, hence the two bounds of three.  The crux is `cycle_parts`: a day number 365 in its
     year is left over for leap years alone.

  3. **There and back** — `dayNumber_ofDayNumber` and `isReal_ofDayNumber`: every number is the
     number of the date that it gives, and that date exists.  A day number is a cycle and a day of
     it, the cycle adds 400 years and nothing else, and so the two parts above are all there is to
     show.

  4. **Moments** — an instant is a day number and a time of day.  Whatever is said of the seconds
     of a moment goes through these two.
-/
import ProxyTrust.Calendar.Moment

namespace ProxyTrust

namespace Date

/-! ## The months of a year -/

/-- A month later there are as many more days before as the month has. -/
theorem daysBeforeMonth_succ (year : Int) (month : Nat) :
    daysBeforeMonth year (month + 2)
      = daysBeforeMonth year (month + 1) + monthLength year (month + 1) := by
  simp [daysBeforeMonth, List.range_succ]

theorem daysBeforeMonth_one (year : Int) : daysBeforeMonth year 1 = 0 := rfl

/-- The days of a whole year. -/
def yearLength (year : Int) : Nat := if isLeap year then 366 else 365

/-- Before the month after the last there are the days of the whole year. -/
theorem daysBeforeMonth_thirteen (year : Int) : daysBeforeMonth year 13 = yearLength year := by
  have hsum : daysBeforeMonth year 13 = 31 + monthLength year 2 + 306 := by
    simp only [daysBeforeMonth, List.range, List.range.loop, List.map, List.foldl, monthLength]
    simp
  rw [hsum, monthLength, yearLength]
  cases isLeap year <;> rfl

/-- A month and a day that exist in a year, `n` days after 1 January. -/
structure IsDay (year : Int) (n : Nat) (found : Nat × Nat) : Prop where
  first : 1 ≤ found.2
  last : found.2 ≤ monthLength year found.1
  days : daysBeforeMonth year found.1 + found.2 = n + 1

/-- Going through the months `start` and later, with `n` days since the first of them, leads to
    the month and the day that are as many days after 1 January as those before `start` and the
    `n` together. -/
theorem monthOfDay_spec {year : Int} (count : Nat) {start n : Nat} (hstart : 1 ≤ start)
    (hn : daysBeforeMonth year start + n < daysBeforeMonth year (start + count)) :
    ∃ found, monthOfDay year n (List.range' start count) = found
      ∧ start ≤ found.1 ∧ found.1 < start + count
      ∧ IsDay year (daysBeforeMonth year start + n) found := by
  induction count generalizing start n with
  | zero =>
    rw [Nat.add_zero] at hn
    exact absurd hn (by omega)
  | succ count ih =>
    rw [List.range'_succ, monthOfDay]
    split
    · -- the day is in this month
      next hlt =>
      exact ⟨(start, n + 1), rfl, Nat.le_refl start, by simp, by simp, hlt, by simp [Nat.add_assoc]⟩
    · -- the days of this month are taken away, and the count of days before goes up by as many
      next hge =>
      obtain ⟨before, rfl⟩ : ∃ before, start = before + 1 := ⟨start - 1, by omega⟩
      have hnext := daysBeforeMonth_succ year before
      have hend : before + 2 + count = before + 1 + (count + 1) := by omega
      have hleft : daysBeforeMonth year (before + 2) + (n - monthLength year (before + 1))
          = daysBeforeMonth year (before + 1) + n := by omega
      have hlater : daysBeforeMonth year (before + 2) + (n - monthLength year (before + 1))
          < daysBeforeMonth year (before + 2 + count) := by
        rw [hleft, hend]
        exact hn
      obtain ⟨found, hfound, hlow, hhigh, hday⟩ := ih (Nat.le_add_left 1 (before + 1)) hlater
      rw [hleft] at hday
      exact ⟨found, hfound, by omega, by omega, hday⟩

theorem months_eq : months = List.range' 1 12 := rfl

/-- The month and the day of a day of the year. -/
theorem monthOfDay_months {year : Int} {n : Nat} (hn : n < yearLength year) :
    1 ≤ (monthOfDay year n months).1 ∧ (monthOfDay year n months).1 ≤ 12
      ∧ IsDay year n (monthOfDay year n months) := by
  have hall : daysBeforeMonth year 1 + n < daysBeforeMonth year (1 + 12) := by
    rw [daysBeforeMonth_one, daysBeforeMonth_thirteen, Nat.zero_add]
    exact hn
  obtain ⟨found, hfound, hlow, hhigh, hday⟩ := monthOfDay_spec 12 (Nat.le_refl 1) hall
  rw [daysBeforeMonth_one, Nat.zero_add] at hday
  rw [months_eq, hfound]
  exact ⟨hlow, Nat.le_of_lt_succ hhigh, hday⟩

/-! ## The years of a cycle -/

theorem isLeap_iff (year : Int) :
    isLeap year = true ↔ year % 4 = 0 ∧ (year % 100 ≠ 0 ∨ year % 400 = 0) := by
  simp [isLeap]

/-- The parts of a day in a cycle of four centuries: the century, the span of four years, the year
    and the day. -/
structure Parts (day century quad single rest : Nat) : Prop where
  sum : day = century * 36524 + quad * 1461 + single * 365 + rest
  century_le : century ≤ 3
  quad_le : quad ≤ 24
  single_le : single ≤ 3
  rest_le : rest ≤ 365
  /-- A day 365 belongs to the last year of a span, and not to that of a century unless it ends
      the cycle. -/
  leap : rest = 365 → single = 3 ∧ (quad < 24 ∨ century = 3)

/-- A day of a cycle is in its century, its span of four years and its year.  The quotients are
    cut off at three, because the last day of a span or of a cycle would be in a fifth part
    otherwise. -/
theorem cycle_parts {day : Nat} (hday : day < 146097) :
    Parts day (min 3 (day / 36524)) ((day - min 3 (day / 36524) * 36524) / 1461)
      (min 3 ((day - min 3 (day / 36524) * 36524) % 1461 / 365))
      ((day - min 3 (day / 36524) * 36524) % 1461
        - min 3 ((day - min 3 (day / 36524) * 36524) % 1461 / 365) * 365) := by
  generalize hcentury : min 3 (day / 36524) = century
  generalize hleft : day - century * 36524 = left
  generalize hsingle : min 3 (left % 1461 / 365) = single
  have hlast : left < 36524 ∨ century = 3 ∧ left < 36525 := by omega
  constructor <;> omega

/-- The days before a year, by the parts of the cycle that it is in. -/
theorem daysBeforeYear_parts (cycle : Int) {century quad single : Nat} (hcentury : century ≤ 3)
    (hquad : quad ≤ 24) (hsingle : single ≤ 3) :
    daysBeforeYear (cycle * 400 + century * 100 + quad * 4 + single + 1)
      = cycle * 146097 + century * 36524 + quad * 1461 + single * 365 := by
  rw [daysBeforeYear]
  omega

/-- The rest of a day is a day of its year. -/
theorem rest_lt_yearLength (cycle : Int) {day century quad single rest : Nat}
    (h : Parts day century quad single rest) :
    rest < yearLength (cycle * 400 + century * 100 + quad * 4 + single + 1) := by
  have hcentury := h.century_le
  have hquad := h.quad_le
  have hsingle := h.single_le
  have hrest := h.rest_le
  rw [yearLength]
  split
  · omega
  · next hleap =>
    rw [isLeap_iff] at hleap
    rcases Nat.lt_or_eq_of_le hrest with hlt | heq
    · exact hlt
    · obtain ⟨rfl, hlast⟩ := h.leap heq
      omega

/-! ## There and back -/

/-- A date by its parts. -/
theorem ofDayNumber_parts (n : Int) :
    ∃ cycle century quad single rest, ∃ day : Nat,
      n + epochDays = cycle * 146097 + day ∧ Parts day century quad single rest
      ∧ ofDayNumber n
        = ⟨cycle * 400 + century * 100 + quad * 4 + single + 1,
          (monthOfDay (cycle * 400 + century * 100 + quad * 4 + single + 1) rest months).1,
          (monthOfDay (cycle * 400 + century * 100 + quad * 4 + single + 1) rest months).2⟩ := by
  have hday : ((n + epochDays) % 146097).toNat < 146097 := by omega
  refine ⟨(n + epochDays) / 146097, _, _, _, _, ((n + epochDays) % 146097).toNat, by omega,
    cycle_parts hday, rfl⟩

/-- Every number is the number of the date that it gives. -/
theorem dayNumber_ofDayNumber (n : Int) : (ofDayNumber n).dayNumber = n := by
  obtain ⟨cycle, century, quad, single, rest, day, hn, hparts, hdate⟩ := ofDayNumber_parts n
  have hyear := daysBeforeYear_parts cycle hparts.century_le hparts.quad_le hparts.single_le
  obtain ⟨-, -, hday⟩ := monthOfDay_months (rest_lt_yearLength cycle hparts)
  have hsum := hparts.sum
  have hfirst := hday.first
  have hdays := hday.days
  rw [hdate, dayNumber]
  simp only [hyear]
  omega

/-- The date of a number exists. -/
theorem isReal_ofDayNumber (n : Int) : (ofDayNumber n).isReal = true := by
  obtain ⟨cycle, century, quad, single, rest, day, -, hparts, hdate⟩ := ofDayNumber_parts n
  obtain ⟨hlow, hhigh, hday⟩ := monthOfDay_months (rest_lt_yearLength cycle hparts)
  rw [hdate, isReal]
  simp only [Bool.and_eq_true, decide_eq_true_eq]
  exact ⟨⟨⟨hlow, hhigh⟩, hday.first⟩, hday.last⟩

/-- The bounds of a date that exists. -/
theorem bounds_of_isReal {d : Date} (h : d.isReal = true) :
    1 ≤ d.month ∧ d.month ≤ 12 ∧ 1 ≤ d.day ∧ d.day ≤ 31 := by
  simp only [isReal, Bool.and_eq_true, decide_eq_true_eq] at h
  obtain ⟨⟨⟨hlow, hhigh⟩, hfirst⟩, hlast⟩ := h
  refine ⟨hlow, hhigh, hfirst, Nat.le_trans hlast ?_⟩
  rw [monthLength]
  split
  · split <;> omega
  · split <;> omega

end Date

/-! ## Moments of an instant -/

namespace Moment

/-- The time of day is less than a day. -/
theorem second_ofUnix_lt (seconds : Int) (nanos : Nat) (offset : Int) :
    (ofUnix seconds nanos offset).second < daySeconds := by
  rw [ofUnix]
  simp only [daySeconds]
  omega

/-- The moment of an instant is at that instant. -/
theorem unix_ofUnix (seconds : Int) (nanos : Nat) (offset : Int) :
    (ofUnix seconds nanos offset).unix = seconds := by
  rw [ofUnix, unix]
  simp only [Date.dayNumber_ofDayNumber, daySeconds]
  omega

/-- Days that are added are added to the seconds. -/
theorem unix_addDays (t : Moment) (days : Int) :
    (t.addDays days).unix = t.unix + days * daySeconds := by
  rw [addDays, unix, unix]
  simp only [Date.dayNumber_ofDayNumber, daySeconds]
  omega

end Moment

end ProxyTrust
