/-
  Rows of bytes: the numbers that they spell, and their hexadecimal digits.

  1. **Numbers** — the most significant byte comes first.  `bigEndian` writes a number into a row of
     fixed length, `ofBigEndian` reads a row of any length, and `minimalBytes` is the shortest row
     that spells a number.

  2. **Digits** — two hexadecimal digits for each byte, in upper case; digits of either case are
     told from all other characters.
-/

namespace ProxyTrust.Bytes

/-! ## Numbers -/

/-- A number as `count` bytes, most significant first; higher bytes are dropped. -/
def bigEndian : (count n : Nat) → List UInt8
  | 0, _ => []
  | count + 1, n => bigEndian count (n / 256) ++ [UInt8.ofNat (n % 256)]

/-- The number that a row of bytes spells, after the value `acc`. -/
def ofBigEndianFrom (acc : Nat) : List UInt8 → Nat
  | [] => acc
  | b :: rest => ofBigEndianFrom (acc * 256 + b.toNat) rest

/-- The number that a row of bytes spells. -/
def ofBigEndian (bytes : List UInt8) : Nat := ofBigEndianFrom 0 bytes

/-- The number of bytes of the shortest row for `n`; zero takes none. -/
def byteLength (n : Nat) : Nat := if n = 0 then 0 else n.log2 / 8 + 1

/-- The shortest row of bytes for `n`; zero is the empty row. -/
def minimalBytes (n : Nat) : List UInt8 := bigEndian (byteLength n) n

example : bigEndian 2 258 = [1, 2] := by decide
example : ofBigEndian [1, 2] = 258 := by decide

/-! ## Digits -/

/-- An upper-case hexadecimal digit. -/
def hexDigit (n : Nat) : Char :=
  if n < 10 then Char.ofNat ('0'.toNat + n) else Char.ofNat ('A'.toNat + (n - 10))

/-- Two upper-case digits for each byte. -/
def hexUpper (bytes : List UInt8) : List Char :=
  bytes.flatMap fun b => [hexDigit (b.toNat / 16), hexDigit (b.toNat % 16)]

/-- A hexadecimal digit of either case, and no other character. -/
def isHexDigit (c : Char) : Bool :=
  ('0' ≤ c && c ≤ '9') || ('a' ≤ c && c ≤ 'f') || ('A' ≤ c && c ≤ 'F')

example : hexUpper [0x0A, 0xFF] = ['0', 'A', 'F', 'F'] := by decide

end ProxyTrust.Bytes
