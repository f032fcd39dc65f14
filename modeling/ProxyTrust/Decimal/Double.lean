/-
  Double-precision numbers: from decimal, and back to the shortest decimal.

  1. **Nearest** — `ofDecimal` is the double nearest to a decimal; of two at the same distance,
     the one with the even mantissa.  All arithmetic is exact, on natural numbers.
  2. **Shortest** — `shortest` finds the fewest digits that are read back as the same double, and of
     those the nearest to it.
  3. **Text** — positional, whatever the exponent, and with at least one digit after the point.
-/
import ProxyTrust.Text.Numeral

namespace ProxyTrust

/-- A double-precision number. -/
inductive Double where
  | nan
  | infinite (negative : Bool)
  /-- The number `mantissa * 2 ^ power`, with its sign. -/
  | finite (negative : Bool) (mantissa : Nat) (power : Int)
  deriving Repr, DecidableEq

namespace Double

/-! ## Rounding -/

/-- The least power of two of a mantissa. -/
def leastPower : Int := -1074

/-- The least mantissa of full length, `2 ^ 52`. -/
def hidden : Nat := 4503599627370496

/-- The quotient nearest to `n / d`; a half goes to the even one. -/
def roundQuotient (n d : Nat) : Nat :=
  let (quotient, rest) := (n / d, n % d)
  if 2 * rest < d then quotient
  else if d < 2 * rest then quotient + 1
  else quotient + quotient % 2

/-- The exponent `e` with `2 ^ e ≤ n / d < 2 ^ (e + 1)`, for positive `n` and `d`. -/
def binaryExponent (n d : Nat) : Int :=
  let guess : Int := (n.log2 : Int) - d.log2
  if n * Nat.pow 2 (-guess).toNat < d * Nat.pow 2 guess.toNat then guess - 1 else guess

/-- The mantissa and the power of the double nearest to `n / d`, without a bound above. -/
def nearest (n d : Nat) : Nat × Int :=
  if n = 0 then (0, leastPower)
  else
    let power := max leastPower (binaryExponent n d - 52)
    let mantissa := roundQuotient (n * Nat.pow 2 (-power).toNat) (d * Nat.pow 2 power.toNat)
    if mantissa = 2 * hidden then (hidden, power + 1) else (mantissa, power)

/-- A mantissa and a power past the largest double. -/
def overflows (m : Nat × Int) : Bool := 971 < m.2

/-- The quotient that a whole number of powers of ten is. -/
def decimalQuotient (digits : Nat) (exponent : Int) : Nat × Nat :=
  (digits * Nat.pow 10 exponent.toNat, Nat.pow 10 (-exponent).toNat)

/-- The double nearest to `digits * 10 ^ exponent`.  Exponents far outside the range of doubles are
    not computed with. -/
def ofDecimal (negative : Bool) (digits : Nat) (exponent : Int) : Double :=
  let magnitude : Int := exponent + (Text.decimal digits).length
  if digits = 0 || magnitude < -400 then .finite negative 0 leastPower
  else if 400 < magnitude then .infinite negative
  else
    let (n, d) := decimalQuotient digits exponent
    let m := nearest n d
    if overflows m then .infinite negative else .finite negative m.1 m.2

/-! ## The shortest decimal -/

/-- The quotient that a mantissa and a power are. -/
def quotient (m : Nat × Int) : Nat × Nat := (m.1 * Nat.pow 2 m.2.toNat, Nat.pow 2 (-m.2).toNat)

/-- The number of digits before the point of `n / d`: for a number below one, minus the number of
    zeros after the point. -/
def pointPosition (n d : Nat) : Int :=
  let guess : Int := ((Text.decimal n).length : Int) - (Text.decimal d).length
  let (a, b) := (n * Nat.pow 10 (-guess).toNat, d * Nat.pow 10 guess.toNat)
  if b ≤ a then guess + 1 else guess

/-- A whole number of powers of ten that is read back as `m`, among the two next to it on the grid
    of this power; the nearer one first. -/
def onGrid (m : Nat × Int) (exponent : Int) : Option Nat :=
  let (n, d) := quotient m
  let (a, b) := (n * Nat.pow 10 (-exponent).toNat, d * Nat.pow 10 exponent.toNat)
  let below := a / b
  let readsBack (digits : Nat) : Bool :=
    let (n, d) := decimalQuotient digits exponent
    nearest n d == m
  let (first, second) := if 2 * (a % b) < b then (below, below + 1) else (below + 1, below)
  if readsBack first then some first else if readsBack second then some second else none

/-- The digits and the exponent of the shortest decimal for `m`, trying finer grids below `exponent`
    one by one. -/
def shortestFrom (m : Nat × Int) (exponent : Int) : (grids : Nat) → Nat × Int
  | 0 => ((quotient m).1, 0)
  | grids + 1 =>
    match onGrid m exponent with
    | some digits => (digits, exponent)
    | none => shortestFrom m (exponent - 1) grids

/-- The most digits that a double needs. -/
def mostDigits : Nat := 17

/-- The digits and the exponent of the shortest decimal for a positive double.  The first grid is
    that of the power of ten above the number, which may itself be read back. -/
def shortest (m : Nat × Int) : Nat × Int :=
  let (n, d) := quotient m
  shortestFrom m (pointPosition n d) (mostDigits + 1)

/-! ## Text -/

/-- The digits with a point, and zeros where the digits do not reach it. -/
def positional (digits : Nat) (exponent : Int) : List Char :=
  let row := Text.decimal digits
  if 0 ≤ exponent then row ++ List.replicate exponent.toNat '0' ++ ['.', '0']
  else
    let places := (-exponent).toNat
    let row := List.replicate (places + 1 - row.length) '0' ++ row
    let whole := row.length - places
    row.take whole ++ ['.'] ++ row.drop whole

/-- The text of a double. -/
def text : Double → List Char
  | nan => ['N', 'a', 'N']
  | infinite negative => (if negative then ['-'] else []) ++ ['i', 'n', 'f']
  | finite negative mantissa power =>
    let body :=
      if mantissa = 0 then ['0', '.', '0']
      else
        let (digits, exponent) := shortest (mantissa, power)
        positional digits exponent
    (if negative then ['-'] else []) ++ body

end Double

end ProxyTrust
