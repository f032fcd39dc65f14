/-
  UTF-8, read strictly or with a replacement character.

  `pieces` is a machine over the bytes: it emits a character for every well-formed sequence and
  `none` for every maximal ill-formed one.  Both readings are views of it: `decodeUtf8?` is the
  text if every piece is a character, and `decodeLossy` the text with U+FFFD in the place of every
  ill-formed piece.

  A first byte decides how many bytes follow and the range of each, so overlong forms, surrogates
  and values past U+10FFFF are ill-formed at the first byte that shows it.  A byte out of its
  range ends the piece and is then read as a first byte.
-/

namespace ProxyTrust.Text

/-! ## Writing -/

/-- The UTF-8 bytes of a text. -/
def encodeUtf8 (s : List Char) : List UInt8 := s.flatMap String.utf8EncodeChar

/-! ## The machine -/

/-- Where the machine stands between two bytes. -/
inductive Utf8State where
  /-- Between characters. -/
  | between
  /-- Inside one: the value read so far, and the ranges of the bytes owed (never empty). -/
  | owing (value : Nat) (next : UInt8 × UInt8) (later : List (UInt8 × UInt8))
  deriving Repr, DecidableEq

/-- What one byte gives: the pieces it completes and the state after it. -/
abbrev Utf8Step := List (Option Char) × Utf8State

/-- A byte that continues a character. -/
def tailRange : UInt8 × UInt8 := (0x80, 0xBF)

/-- A byte read between characters. -/
def firstByte (b : UInt8) : Utf8Step :=
  if b < 0x80 then ([some (Char.ofNat b.toNat)], .between)
  else if 0xC2 ≤ b && b ≤ 0xDF then ([], .owing (b.toNat - 0xC0) tailRange [])
  else if b == 0xE0 then ([], .owing 0 (0xA0, 0xBF) [tailRange])
  else if b == 0xED then ([], .owing 0xD (0x80, 0x9F) [tailRange])
  else if 0xE1 ≤ b && b ≤ 0xEF then ([], .owing (b.toNat - 0xE0) tailRange [tailRange])
  else if b == 0xF0 then ([], .owing 0 (0x90, 0xBF) [tailRange, tailRange])
  else if 0xF1 ≤ b && b ≤ 0xF3 then ([], .owing (b.toNat - 0xF0) tailRange [tailRange, tailRange])
  else if b == 0xF4 then ([], .owing 4 (0x80, 0x8F) [tailRange, tailRange])
  else ([none], .between)

/-- One byte.  A byte out of its range ends an ill-formed piece and is then read as a first byte. -/
def utf8Step : Utf8State → UInt8 → Utf8Step
  | .between, b => firstByte b
  | .owing value (low, high) later, b =>
    if low ≤ b && b ≤ high then
      let value := value * 64 + (b.toNat - 0x80)
      match later with
      | [] => ([some (Char.ofNat value)], .between)
      | next :: later => ([], .owing value next later)
    else
      let (out, state) := firstByte b
      (none :: out, state)

/-- Every piece of the bytes; a character cut short by the end is one ill-formed piece. -/
def pieces : Utf8State → List UInt8 → List (Option Char)
  | .between, [] => []
  | .owing .., [] => [none]
  | state, b :: rest =>
    let (out, next) := utf8Step state b
    out ++ pieces next rest

/-! ## The two readings -/

/-- The text that the bytes spell, if they are UTF-8. -/
def decodeUtf8? (bytes : List UInt8) : Option (List Char) := (pieces .between bytes).mapM id

/-- The text that the bytes spell, with U+FFFD for every maximal ill-formed sequence. -/
def decodeLossy (bytes : List UInt8) : List Char :=
  (pieces .between bytes).map fun piece => piece.getD '\uFFFD'

example : decodeUtf8? [0xE2, 0x82, 0xAC] = some ['€'] := by decide
example : decodeUtf8? [0xED, 0xA0, 0x80] = none := by decide
example : decodeLossy [0x61, 0xE2, 0x82, 0x62] = ['a', '\uFFFD', 'b'] := by decide
example : decodeLossy [0xED, 0xA0, 0x80] = ['\uFFFD', '\uFFFD', '\uFFFD'] := by decide

end ProxyTrust.Text
