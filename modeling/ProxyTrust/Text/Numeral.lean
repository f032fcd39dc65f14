/-
  Decimal numerals.

  `readUnsigned?` is the rule for every number a user types: an optional plus sign, then one or
  more ASCII digits with any number of leading zeros, and a bound on the value.  `readSigned?` has
  a minus sign as well.

  Written, a number has no leading zeros, unless it is padded to a width.  Digits of other scripts
  are no digits here.
-/

namespace ProxyTrust.Text

/-- An ASCII digit. -/
def isDigit (c : Char) : Bool := '0' ≤ c && c ≤ '9'

/-- The value of an ASCII digit. -/
def digitValue (c : Char) : Nat := c.toNat - '0'.toNat

/-- The value of a row of digits, most significant first, after the value `acc`. -/
def digitsValue (acc : Nat) : List Char → Nat
  | [] => acc
  | c :: rest => digitsValue (acc * 10 + digitValue c) rest

/-- The number that a non-empty row of ASCII digits spells. -/
def readDigits? (s : List Char) : Option Nat :=
  if s.isEmpty || !s.all isDigit then none else some (digitsValue 0 s)

/-- The row of digits after an optional plus sign. -/
def withoutPlus : List Char → List Char
  | '+' :: rest => rest
  | s => s

/-- A number of at most `bound`, with an optional plus sign. -/
def readUnsigned? (bound : Nat) (s : List Char) : Option Nat :=
  match readDigits? (withoutPlus s) with
  | some n => if n ≤ bound then some n else none
  | none => none

/-- A number between `-bound - 1` and `bound`, with an optional sign. -/
def readSigned? (bound : Nat) : List Char → Option Int
  | '-' :: rest =>
    match readDigits? rest with
    | some n => if n ≤ bound + 1 then some (-(n : Int)) else none
    | none => none
  | s => (readUnsigned? bound s).map Int.ofNat

/-- A number in decimal, without leading zeros. -/
def decimal (n : Nat) : List Char := Nat.toDigits 10 n

/-- A number in decimal with at least `width` digits. -/
def padded (width n : Nat) : List Char :=
  let digits := decimal n
  List.replicate (width - digits.length) '0' ++ digits

example : readUnsigned? 65535 ['+', '0', '8', '0'] = some 80 := by decide
example : readUnsigned? 65535 ['-', '1'] = none := by decide
example : padded 4 33 = ['0', '0', '3', '3'] := by decide

end ProxyTrust.Text
