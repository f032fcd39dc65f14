/-
  Base64 read: the two decoders, which differ in the padding that they ask for.

  1. **Canonical** — the standard alphabet, padding that must fill the last group, and no bit set
     that no byte uses.

  2. **Lenient** — padding may be left out: the last eight bytes may hold `=` in the third and
     fourth place of a group of four, whether or not it fills the group.

  Both read the symbols in front of the last bytes in the same way, and words for a fault are their
  own.
-/
import ProxyTrust.Base64.Symbol

namespace ProxyTrust.Base64

/-! ## Canonical base64 -/

namespace Strict

/-- The checks on the last group: at least two symbols, and padding that fills it. -/
def closed (start : Nat) (tail : Tail) : Except Fault Unit :=
  if tail.symbols.length < 2 then .error (.length (start + tail.symbols.length))
  else if tail.symbols.length + tail.padding ≠ 4 then .error .padding
  else .ok ()

/-- The bytes of a canonical text.  The first fault from the left is told, except that a stray last
    byte after whole groups is told before all others. -/
def decode (text : List UInt8) : Except Fault (List UInt8) :=
  if text = [] then .ok [] else
  match (if text.length % 4 = 1 then strayLast? text else none) with
  | some fault => .error fault
  | none =>
    let start := tailStart 4 text
    do
      let front ← readSymbols 0 (text.take start)
      let tail ← readTail start 0 (text.drop start)
      closed start tail
      finish text (front ++ tail.symbols)

/-- The wording of a fault. -/
def message : Fault → String
  | .byte b offset => s!"Invalid symbol {b.toNat}, offset {offset}."
  | .lastSymbol b offset => s!"Invalid last symbol {b.toNat}, offset {offset}."
  | .length n => s!"Invalid input length: {n}"
  | .padding => "Invalid padding"

example : decode [0x51, 0x55, 0x4A, 0x44] = .ok [0x41, 0x42, 0x43] := rfl
example : decode [0x51, 0x55, 0x4A] = .error .padding := rfl
example : decode [0x51, 0x52, 0x3D, 0x3D] = .error (.lastSymbol 0x52 1) := rfl

end Strict

/-! ## Base64 with optional padding -/

namespace Lenient

/-- The bytes of a text whose padding may be missing. -/
def decode (text : List UInt8) : Except Fault (List UInt8) :=
  if text = [] then .ok []
  else if text.length % 4 = 1 then .error ((strayLast? text).getD (.length text.length))
  else
    let start := tailStart 8 text
    do
      let front ← readSymbols 0 (text.take start)
      let tail ← readTail start 0 (text.drop start)
      finish text (front ++ tail.symbols)

/-- The wording of a fault. -/
def message : Fault → String
  | .byte b offset => s!"Invalid byte {b.toNat}, offset {offset}."
  | .lastSymbol b offset => s!"Invalid last symbol {b.toNat}, offset {offset}."
  | .length _ => "Encoded text cannot have a 6-bit remainder."
  | .padding => "Invalid padding"

example : decode [0x51, 0x55, 0x4A] = .error (.lastSymbol 0x4A 2) := rfl
example : decode [0x51, 0x51] = .ok [0x41] := rfl

end Lenient

end ProxyTrust.Base64
