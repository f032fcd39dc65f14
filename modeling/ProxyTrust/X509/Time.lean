/-
  The two time forms of certificates.

  A UTCTime has two digits for the year, 50 to 99 standing for 1950 to 1999 and 00 to 49 for 2000
  to 2049; a GeneralizedTime has four.

  1. **Reading** — `readTime?` takes every form that certificates in use have: seconds and a
     fraction of them may be there or not, and the zone is UTC or a distance from it.

  2. **Writing** — `writeTime?` chooses the form by the local year and writes the instant in UTC
     with seconds.  A year that the form cannot hold gives nothing.
-/
import ProxyTrust.Calendar.Moment
import ProxyTrust.Der.Element

namespace ProxyTrust.X509

/-- The two forms. -/
inductive TimeForm where
  | utc | generalized
  deriving Repr, DecidableEq

namespace TimeForm

/-- The tag number of a form. -/
def tag : TimeForm → Nat
  | utc => 23
  | generalized => 24

/-- The form of a tag number. -/
def ofTag? (tag : Nat) : Option TimeForm :=
  if tag = 23 then some .utc else if tag = 24 then some .generalized else none

/-- The years that a form can write. -/
def holdsYear (form : TimeForm) (year : Int) : Bool :=
  match form with
  | utc => 1950 ≤ year && year < 2050
  | generalized => 0 ≤ year && year < 10000

end TimeForm

/-! ## Reading -/

/-- The value of a digit byte. -/
def digit? (b : UInt8) : Option Nat := if 0x30 ≤ b && b ≤ 0x39 then some (b.toNat - 0x30) else none

/-- A number of two digits. -/
def pair? : List UInt8 → Option (Nat × List UInt8)
  | a :: b :: rest =>
    match digit? a, digit? b with
    | some x, some y => some (x * 10 + y, rest)
    | _, _ => none
  | _ => none

/-- The byte `Z`, for UTC. -/
def zulu : UInt8 := 0x5A

/-- The seconds and what follows them: a time may go from minutes straight to its end. -/
def seconds? (bytes : List UInt8) : Option (Nat × List UInt8) :=
  if bytes = [zulu] then some (0, bytes) else pair? bytes

/-- The most hours of an offset. -/
def offsetHours : Nat := 25

/-- What may end a UTCTime: `Z`, or a sign, hours and minutes. -/
def utcOffset? : List UInt8 → Option Int
  | [] => none
  | sign :: rest =>
    if sign :: rest = [zulu] then some 0
    else if sign = 0x2B || sign = 0x2D then do
      let (hours, rest) ← pair? rest
      let (minutes, rest) ← pair? rest
      if rest = [] && hours ≤ offsetHours && minutes ≤ 59 then
        let distance : Int := (hours * 60 + minutes : Nat) * 60
        some (if sign = 0x2B then distance else -distance)
      else none
    else none

/-- The most digits of a fraction of a second. -/
def fractionDigits : Nat := 3

/-- What may end a GeneralizedTime: `Z`, or a point, up to three digits and `Z`; in nanoseconds. -/
def fraction? (bytes : List UInt8) : Option Nat :=
  if bytes = [zulu] then some 0
  else match bytes with
    | [] => none
    | point :: rest =>
      if point = 0x2E && rest.getLast? = some zulu && rest.length ≤ fractionDigits + 1 then
        (rest.dropLast.mapM digit?).map fun digits =>
          digits.foldl (· * 10 + ·) 0 * Nat.pow 10 (9 - digits.length)
      else none

/-- A year of a form. -/
def year? (form : TimeForm) (bytes : List UInt8) : Option (Int × List UInt8) := do
  let (first, rest) ← pair? bytes
  match form with
  | .utc => return ((if 50 ≤ first then 1900 + first else 2000 + first : Nat), rest)
  | .generalized =>
    let (second, rest) ← pair? rest
    return ((first * 100 + second : Nat), rest)

/-- The moment that the content of a time spells. -/
def readTime? (form : TimeForm) (content : List UInt8) : Option Moment := do
  let (year, rest) ← year? form content
  let (month, rest) ← pair? rest
  let (day, rest) ← pair? rest
  let (hour, rest) ← pair? rest
  let (minute, rest) ← pair? rest
  let (second, rest) ← seconds? rest
  let date : Date := ⟨year, month, day⟩
  let clock := (hour * 60 + minute) * 60 + second
  if date.isReal && hour ≤ 23 && minute ≤ 59 && second ≤ 59 then
    match form with
    | .utc => (utcOffset? rest).map fun offset => ⟨date, clock, 0, offset⟩
    | .generalized => (fraction? rest).map fun nanos => ⟨date, clock, nanos, 0⟩
  else none

/-! ## Writing -/

/-- The form for a moment: UTCTime for the local years 1950 to 2049. -/
def formOf (t : Moment) : TimeForm :=
  if TimeForm.utc.holdsYear t.date.year then .utc else .generalized

/-- The bytes of ASCII characters. -/
def asciiBytes (s : List Char) : List UInt8 := s.map fun c => UInt8.ofNat c.toNat

/-- Date and time of a moment in UTC, to the second. -/
def timeContent (form : TimeForm) (t : Moment) : List UInt8 :=
  let year := t.date.year.toNat
  let yearDigits := match form with
    | .utc => Text.padded 2 (year % 100)
    | .generalized => Text.padded 4 year
  asciiBytes <| yearDigits ++ Text.padded 2 t.date.month ++ Text.padded 2 t.date.day ++
    Text.padded 2 (t.second / 3600) ++ Text.padded 2 (t.second / 60 % 60) ++
    Text.padded 2 (t.second % 60) ++ ['Z']

/-- The element of a moment, if its form can write its year in UTC. -/
def writeTime? (t : Moment) : Option (List UInt8) :=
  let form := formOf t
  let utc := t.utc
  if utc.date.inRange && form.holdsYear utc.date.year then
    some (Der.write (UInt8.ofNat form.tag) (timeContent form utc))
  else none

example :
    (readTime? .utc (asciiBytes "500101000000Z".toList)).map (·.date) = some ⟨1950, 1, 1⟩ := by
  decide

end ProxyTrust.X509
