/-
  Moments: a local date and time of day with its distance from UTC.

  Two moments may show different dates and be the same instant; `unix` is the instant, in seconds.
  `utc` shows the same instant without a distance.

  Calendar arithmetic is on the local date: days are added to it and its year or day is replaced,
  while the time of day and the distance stay.  Replacing gives nothing where the calendar has no
  such date.

  `text` shows date, time and distance, with the fraction of a second down to its last digit other
  than zero.
-/
import ProxyTrust.Calendar.Date
import ProxyTrust.Text.Numeral

namespace ProxyTrust

/-- A date and a time of day at an offset from UTC. -/
structure Moment where
  date : Date
  /-- Seconds since local midnight. -/
  second : Nat
  nanos : Nat
  /-- Seconds east of UTC. -/
  offset : Int
  deriving Repr, DecidableEq

namespace Moment

/-- The number of seconds in a day. -/
def daySeconds : Nat := 86400

/-- The moment of an instant at an offset. -/
def ofUnix (seconds : Int) (nanos : Nat) (offset : Int) : Moment :=
  let here := seconds + offset
  ⟨Date.ofDayNumber (here / daySeconds), (here % daySeconds).toNat, nanos, offset⟩

/-- The whole seconds from the start of 1970 in UTC. -/
def unix (t : Moment) : Int := t.date.dayNumber * daySeconds + t.second - t.offset

/-- The same instant with the offset zero. -/
def utc (t : Moment) : Moment := ofUnix t.unix t.nanos 0

/-- The moment some days later, at the same time of day. -/
def addDays (t : Moment) (days : Int) : Moment :=
  { t with date := Date.ofDayNumber (t.date.dayNumber + days) }

/-- The same month and day in another year, if the year has them. -/
def withYear? (t : Moment) (year : Int) : Option Moment :=
  let date := { t.date with year }
  if date.isReal && date.inRange then some { t with date } else none

/-- Another day of the same month, if the month has it. -/
def withDay? (t : Moment) (day : Nat) : Option Moment :=
  let date := { t.date with day }
  if date.isReal then some { t with date } else none

/-! ## The text of a moment -/

/-- A year with at least four digits. -/
def yearText (year : Int) : List Char :=
  if year < 0 then '-' :: Text.padded 4 year.natAbs else Text.padded 4 year.natAbs

/-- The fraction of a second without its last zeros, at least one digit. -/
def fractionText (nanos : Nat) : List Char :=
  match ((Text.padded 9 nanos).reverse.dropWhile (· == '0')).reverse with
  | [] => ['0']
  | digits => digits

/-- Hours, minutes and seconds, the hours with at least `hourWidth` digits. -/
def clockText (hourWidth second : Nat) : List Char :=
  Text.padded hourWidth (second / 3600) ++ [':'] ++ Text.padded 2 (second / 60 % 60) ++ [':'] ++
    Text.padded 2 (second % 60)

/-- Date, time and offset: `2024-02-29 0:06:07.5 -05:00:00`. -/
def text (t : Moment) : String :=
  String.ofList <|
    yearText t.date.year ++ ['-'] ++ Text.padded 2 t.date.month ++ ['-'] ++
    Text.padded 2 t.date.day ++ [' '] ++ clockText 1 t.second ++ ['.'] ++ fractionText t.nanos ++
    [' ', if t.offset < 0 then '-' else '+'] ++ clockText 2 t.offset.natAbs

end Moment

end ProxyTrust
