/-
  Numbers, dates and times of documents.

  1. **Dates and times** — a date, a time of day or both, with or without a zone.  They are
     checked to be there in the calendar, and which one it was is not kept.

  2. **Digits** — digits may be grouped by single underscores, and no zero stands before other
     whole digits.

  3. **Numbers** — what begins with a digit or a sign is a date or a time, infinity or
     not-a-number, an integer to the base sixteen, eight or two, or a decimal number: the first of
     these that fits.  A decimal number is an integer unless a point or an exponent follows.
     Integers have 64 bits.
-/
import ProxyTrust.Calendar.Date
import ProxyTrust.Toml.Node
import ProxyTrust.Toml.Quoting

namespace ProxyTrust.Toml

open Text (dropLead? isDigit digitsValue)

/-! ## Dates and times -/

/-- A number of exactly `count` digits between two bounds. -/
def digitsWithin (count low high : Nat) (s : List Char) : Option (Nat × List Char) :=
  let digits := s.take count
  if digits.length = count && digits.all isDigit then
    let n := digitsValue 0 digits
    if low ≤ n && n ≤ high then some (n, s.drop count) else none
  else none

/-- One character, after which the text goes on. -/
def sign? (c : Char) : List Char → Option (List Char)
  | [] => none
  | d :: rest => if d = c then some rest else none

/-- A date, `year-month-day`, that exists. -/
def date (s : List Char) : Option (Unit × List Char) := do
  let (year, s) ← digitsWithin 4 0 9999 s
  let s ← sign? '-' s
  let (month, s) ← digitsWithin 2 1 12 s
  let s ← sign? '-' s
  let (day, s) ← digitsWithin 2 1 31 s
  if day ≤ Date.monthLength year month then return ((), s) else none

/-- A fraction of a second, if there is a point. -/
def secondFraction (s : List Char) : Option (Unit × List Char) :=
  match s with
  | '.' :: rest =>
    if (rest.takeWhile isDigit).isEmpty then none else some ((), rest.dropWhile isDigit)
  | _ => some ((), s)

/-- A time of day, `hour:minute:second` with an optional fraction. -/
def clock (s : List Char) : Option (Unit × List Char) := do
  let (_, s) ← digitsWithin 2 0 23 s
  let s ← sign? ':' s
  let (_, s) ← digitsWithin 2 0 59 s
  let s ← sign? ':' s
  let (_, s) ← digitsWithin 2 0 60 s
  secondFraction s

/-- A distance from UTC, if there is a `Z` or a sign. -/
def zone (s : List Char) : Option (Unit × List Char) :=
  match s with
  | [] => some ((), s)
  | c :: rest =>
    if c == 'Z' || c == 'z' then some ((), rest)
    else if c == '+' || c == '-' then do
      let (_, rest) ← digitsWithin 2 0 23 rest
      let rest ← sign? ':' rest
      let (_, rest) ← digitsWithin 2 0 59 rest
      return ((), rest)
    else some ((), s)

/-- The text begins with an hour and a colon. -/
def beginsClock (s : List Char) : Bool :=
  match digitsWithin 2 0 23 s with
  | some (_, ':' :: _) => true
  | _ => false

/-- A date, and a time of day after it if there is one. -/
def dateAndClock (s : List Char) : Option (Unit × List Char) :=
  match date s with
  | none => none
  | some (_, rest) =>
    match rest with
    | [] => some ((), rest)
    | c :: after =>
      if (c == 'T' || c == 't' || c == ' ') && beginsClock after then
        match clock after with
        | some (_, rest) => zone rest
        | none => none
      else some ((), rest)

/-- The text begins with four digits and a dash, as only a date does. -/
def beginsDate (s : List Char) : Bool :=
  match digitsWithin 4 0 9999 s with
  | some (_, '-' :: _) => true
  | _ => false

/-! ## Digits -/

/-- A row of digits with single underscores between them, without the underscores. -/
def groupedDigits (isDigit : Char → Bool) : List Char → Option (List Char × List Char)
  | [] => none
  | [c] => if isDigit c then some ([c], []) else none
  | c :: d :: rest =>
    if !isDigit c then none
    else if d = '_' then (groupedDigits isDigit rest).map fun r => (c :: r.1, r.2)
    else if isDigit d then (groupedDigits isDigit (d :: rest)).map fun r => (c :: r.1, r.2)
    else some ([c], d :: rest)

/-- A sign, if there is one: the number is negative. -/
def optionalSign : List Char → Bool × List Char
  | '+' :: rest => (false, rest)
  | '-' :: rest => (true, rest)
  | s => (false, s)

/-- Whole digits without a zero before others. -/
def wholeDigits (s : List Char) : Option (List Char × List Char) :=
  match s with
  | '0' :: rest => some (['0'], rest)
  | _ => groupedDigits isDigit s

/-! ## Numbers -/

/-- An exponent with its sign, after the letter. -/
def exponentDigits (s : List Char) : Option (Int × List Char) :=
  let (negative, rest) := optionalSign s
  (groupedDigits isDigit rest).map fun r =>
    let n : Int := digitsValue 0 r.1
    (if negative then -n else n, r.2)

/-- An exponent, if the text goes on with its letter. -/
def exponent (s : List Char) : Option (Int × List Char) :=
  match s with
  | 'e' :: rest | 'E' :: rest => exponentDigits rest
  | _ => some (0, s)

/-- Digits after a point, if there is one. -/
def fraction (s : List Char) : Option (List Char × List Char) :=
  match s with
  | '.' :: rest => groupedDigits isDigit rest
  | _ => some ([], s)

/-- A number of a document, unless it is too large to be written: infinity above has a name of its
    own, but a number below the least double is taken. -/
def float (negative : Bool) (digits : List Char) (exponent : Int) : Option Node :=
  match Double.ofDecimal negative (digitsValue 0 digits) exponent with
  | .infinite false => none
  | x => some (.float x)

/-- The greatest integer. -/
def greatestInteger : Nat := 9223372036854775807

/-- An integer in range. -/
def integer (negative : Bool) (n : Nat) : Option Node :=
  if negative then (if n ≤ greatestInteger + 1 then some (.integer (-(n : Int))) else none)
  else if n ≤ greatestInteger then some (.integer n) else none

/-- A number in decimal: an integer, unless a point or an exponent follows. -/
def decimalNumber (s : List Char) : Option (Node × List Char) := do
  let (negative, rest) := optionalSign s
  let (whole, rest) ← wholeDigits rest
  let isWhole := match rest with
    | '.' :: _ | 'e' :: _ | 'E' :: _ => false
    | _ => true
  if isWhole then
    let node ← integer negative (digitsValue 0 whole)
    return (node, rest)
  else
    let (part, rest) ← fraction rest
    let (power, rest) ← exponent rest
    let node ← float negative (whole ++ part) (power - part.length)
    return (node, rest)

/-- An integer in another base, after its mark. -/
def basedInteger (base : Nat) (s : List Char) : Option (Node × List Char) := do
  let below (c : Char) : Bool := match hexValue? c with
    | some v => v < base
    | none => false
  let (digits, rest) ← groupedDigits below s
  let node ← integer false (digits.foldl (fun n c => n * base + (hexValue? c).getD 0) 0)
  return (node, rest)

/-- Infinity and not-a-number, after an optional sign. -/
def namedNumber (s : List Char) : Option (Node × List Char) :=
  let (negative, rest) := optionalSign s
  match rest with
  | 'i' :: 'n' :: 'f' :: rest => some (.float (.infinite negative), rest)
  | 'n' :: 'a' :: 'n' :: rest => some (.float .nan, rest)
  | _ => none

/-- What begins with a digit or a sign. -/
def number (s : List Char) : Option (Node × List Char) :=
  if beginsDate s then (dateAndClock s).map fun r => (.dateTime, r.2)
  else if beginsClock s then (clock s).map fun r => (.dateTime, r.2)
  else match namedNumber s with
    | some r => some r
    | none =>
      match s with
      | '0' :: 'x' :: rest => basedInteger 16 rest
      | '0' :: 'o' :: rest => basedInteger 8 rest
      | '0' :: 'b' :: rest => basedInteger 2 rest
      | _ => decimalNumber s

end ProxyTrust.Toml
