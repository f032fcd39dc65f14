/-
  Dates of the Gregorian calendar, continued in both directions.

  1. **Lengths** — a year divided by four is a leap year, unless it is divided by a hundred and
     not by four hundred.  Year zero is the year before year one.

  2. **Counting days** — `dayNumber` counts the days from 1 January 1970 and `ofDayNumber` finds
     the date of a count.  The calendar repeats itself after four centuries; within these the
     century, the group of four years, the year and the month are found one after the other.

  3. **Range** — calendar arithmetic of the program ends at the years -9999 and 9999; the count of
     days does not.
-/

namespace ProxyTrust

/-- A year, a month from 1 to 12 and a day from 1. -/
structure Date where
  year : Int
  month : Nat
  day : Nat
  deriving Repr, DecidableEq

namespace Date

/-! ## Lengths -/

/-- The year has a 29 February. -/
def isLeap (year : Int) : Bool := year % 4 == 0 && (year % 100 != 0 || year % 400 == 0)

/-- The number of days of a month. -/
def monthLength (year : Int) (month : Nat) : Nat :=
  if month = 2 then (if isLeap year then 29 else 28)
  else if month = 4 || month = 6 || month = 9 || month = 11 then 30 else 31

/-- The month and the day exist. -/
def isReal (d : Date) : Bool :=
  1 ≤ d.month && d.month ≤ 12 && 1 ≤ d.day && d.day ≤ monthLength d.year d.month

/-! ## Counting days -/

/-- The days from 1 January of year one to 1 January of a year. -/
def daysBeforeYear (year : Int) : Int :=
  let past := year - 1
  365 * past + past / 4 - past / 100 + past / 400

/-- The days of a year before a month. -/
def daysBeforeMonth (year : Int) (month : Nat) : Nat :=
  ((List.range (month - 1)).map fun i => monthLength year (i + 1)).foldl (· + ·) 0

/-- The days from 1 January of year one to 1 January 1970. -/
def epochDays : Int := 719162

/-- The days from 1 January 1970. -/
def dayNumber (d : Date) : Int :=
  daysBeforeYear d.year + daysBeforeMonth d.year d.month + ((d.day : Int) - 1) - epochDays

/-- The month and the day of the day `n` of a year, counted from zero, looking at `months`. -/
def monthOfDay (year : Int) (n : Nat) : (months : List Nat) → Nat × Nat
  | [] => (12, 31)
  | month :: later =>
    if n < monthLength year month then (month, n + 1)
    else monthOfDay year (n - monthLength year month) later

/-- The months in order. -/
def months : List Nat := [1, 2, 3, 4, 5, 6, 7, 8, 9, 10, 11, 12]

/-- The date of a day number.  A cycle of four centuries has 146097 days; in it, the last day of a
    leap cycle belongs to the year before it. -/
def ofDayNumber (n : Int) : Date :=
  let days := n + epochDays
  let inCycle := (days % 146097).toNat
  let century := min 3 (inCycle / 36524)
  let inCentury := inCycle - century * 36524
  let inQuad := inCentury % 1461
  let single := min 3 (inQuad / 365)
  let year := days / 146097 * 400 + century * 100 + (inCentury / 1461 : Nat) * 4 + single + 1
  let (month, day) := monthOfDay year (inQuad - single * 365) months
  ⟨year, month, day⟩

/-- The range of years that dates are kept in. -/
def inRange (d : Date) : Bool := -9999 ≤ d.year && d.year ≤ 9999

example : dayNumber ⟨1970, 1, 1⟩ = 0 := by decide
example : ofDayNumber 11016 = ⟨2000, 2, 29⟩ := by decide
example : ofDayNumber (-719529) = ⟨-1, 12, 31⟩ := by decide

end Date

end ProxyTrust
