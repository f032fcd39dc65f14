/-
  Primes for fresh keys.

  1. **The test** — a number is taken for a prime if no small prime divides it and it passes the
     strong test to a row of bases: a power of the base is one, or one of its squares is minus
     one.

  2. **The search** — it starts at a random odd number whose two highest bits are set, so that two
     primes make a modulus of full length, and goes on in steps of two.  A prime has to suit the
     public exponent as well, or the exponent could not be undone.

  The search has a bound, and random bytes that lead to nothing give no key.
-/
import ProxyTrust.Rsa.Key

namespace ProxyTrust.Rsa

/-! ## The test -/

/-- The number of times that two divides `n`, at most `fuel`, and what is left. -/
def splitTwos : (fuel n : Nat) → Nat × Nat
  | 0, n => (0, n)
  | fuel + 1, n =>
    if n % 2 = 0 then
      let (twos, odd) := splitTwos fuel (n / 2)
      (twos + 1, odd)
    else (0, n)

/-- One of `x` and its next `count` squares is minus one. -/
def reachesMinusOne (n : Nat) : (count x : Nat) → Bool
  | 0, x => x == n - 1
  | count + 1, x => x == n - 1 || reachesMinusOne n count (x * x % n)

/-- `n` passes the strong test to a base. -/
def passes (n base : Nat) : Bool :=
  let (twos, odd) := splitTwos n.log2 (n - 1)
  let power := powMod base odd n
  power == 1 || reachesMinusOne n (twos - 1) power

/-- The primes that are tried as divisors, and as bases of the test. -/
def smallPrimes : List Nat :=
  [2, 3, 5, 7, 11, 13, 17, 19, 23, 29, 31, 37, 41, 43, 47, 53, 59, 61, 67, 71, 73, 79, 83, 89, 97]

/-- `n`, above all small primes, is taken for a prime. -/
def isPrimeLike (n : Nat) : Bool := smallPrimes.all (n % · != 0) && smallPrimes.all (passes n)

/-! ## The search -/

/-- The prime fits the public exponent: the exponent can be undone. -/
def suitsExponent (p : Nat) : Bool := (p - 1) % publicExponent != 0

/-- The first number from `n` in steps of two that is taken for a prime, of `fuel` numbers. -/
def primeFrom? : (fuel n : Nat) → Option Nat
  | 0, _ => none
  | fuel + 1, n => if isPrimeLike n && suitsExponent n then some n else primeFrom? fuel (n + 2)

/-- The length of a prime in bits. -/
def primeBits : Nat := 1024

/-- How many numbers are tried: many times the usual distance of primes of this length. -/
def searchLength : Nat := 100000

/-- A number of full length, odd and with its two highest bits set, made of random bytes. -/
def candidate (bytes : List UInt8) : Nat :=
  let n := Bytes.ofBigEndian bytes % Nat.pow 2 (primeBits - 2)
  3 * Nat.pow 2 (primeBits - 2) + n / 2 * 2 + 1

/-- The key that two rows of random bytes lead to. -/
def Key.ofRandom? (first second : List UInt8) : Option Key := do
  let p ← primeFrom? searchLength (candidate first)
  let q ← primeFrom? searchLength (candidate second)
  if p = q then none else return .ofPrimes p q

example : ([101, 561, 7919].map isPrimeLike) = [true, false, true] := by decide +kernel

end ProxyTrust.Rsa
