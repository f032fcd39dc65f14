/-
  Base64: the alphabet, the packing of bytes into symbols, and the reading of a row of symbols.

  1. **Writing** — bytes come in groups of three, symbols in groups of four; a last group of one
     or two bytes gives two or three symbols and is filled up with `=`.  `encode` writes the
     padded form.

  2. **Packing** — symbols are taken as rows of six bits, which are packed into bytes of eight.
     The bits that are left over at the end have to be zero.

  3. **Reading a row** — both decoders of the library read a row of symbols the same way
     (`readSymbols`): what they disagree about is how much of the end of the row may hold padding,
     and whether padding must be there.  A fault names the place and the symbol, or the length.
-/

namespace ProxyTrust.Base64

/-! ## The alphabet -/

/-- The character of a six-bit value. -/
def symbol (n : Nat) : Char :=
  if n < 26 then Char.ofNat ('A'.toNat + n)
  else if n < 52 then Char.ofNat ('a'.toNat + (n - 26))
  else if n < 62 then Char.ofNat ('0'.toNat + (n - 52))
  else if n = 62 then '+' else '/'

/-- The six-bit value of a byte of base64 text. -/
def value? (b : UInt8) : Option Nat :=
  let n := b.toNat
  if 0x41 ≤ n && n ≤ 0x5A then some (n - 0x41)
  else if 0x61 ≤ n && n ≤ 0x7A then some (n - 0x61 + 26)
  else if 0x30 ≤ n && n ≤ 0x39 then some (n - 0x30 + 52)
  else if n = 0x2B then some 62
  else if n = 0x2F then some 63
  else none

/-- The padding byte, `=`. -/
def pad : UInt8 := 0x3D

/-! ## Writing -/

/-- The padded base64 text of the bytes. -/
def encode : List UInt8 → List Char
  | a :: b :: c :: rest =>
    symbol (a.toNat / 4) :: symbol (a.toNat % 4 * 16 + b.toNat / 16) ::
      symbol (b.toNat % 16 * 4 + c.toNat / 64) :: symbol (c.toNat % 64) :: encode rest
  | [a, b] =>
    [symbol (a.toNat / 4), symbol (a.toNat % 4 * 16 + b.toNat / 16), symbol (b.toNat % 16 * 4), '=']
  | [a] => [symbol (a.toNat / 4), symbol (a.toNat % 4 * 16), '=', '=']
  | [] => []

/-! ## Packing -/

/-- The bytes that six-bit values spell; bits that fill no byte are dropped. -/
def pack : List Nat → List UInt8
  | a :: b :: c :: d :: rest =>
    UInt8.ofNat (a * 4 + b / 16) :: UInt8.ofNat (b % 16 * 16 + c / 4) ::
      UInt8.ofNat (c % 4 * 64 + d) :: pack rest
  | [a, b, c] => [UInt8.ofNat (a * 4 + b / 16), UInt8.ofNat (b % 16 * 16 + c / 4)]
  | [a, b] => [UInt8.ofNat (a * 4 + b / 16)]
  | _ => []

/-- The value of the bits of the last symbol that `pack` drops. -/
def spareBits : List Nat → Nat
  | _ :: _ :: _ :: _ :: rest => spareBits rest
  | [_, _, c] => c % 4
  | [_, b] => b % 16
  | _ => 0

/-! ## Reading a row -/

/-- Why a text is not base64. -/
inductive Fault where
  /-- A byte that cannot stand at this offset. -/
  | byte (b : UInt8) (offset : Nat)
  /-- The last symbol has bits that fill no byte. -/
  | lastSymbol (b : UInt8) (offset : Nat)
  /-- A last group of a single symbol; the length counts what came before it. -/
  | length (n : Nat)
  /-- The last group is not filled up. -/
  | padding
  deriving Repr, DecidableEq

/-- Symbols without padding; `offset` is the offset of the first. -/
def readSymbols (offset : Nat) : List UInt8 → Except Fault (List Nat)
  | [] => .ok []
  | b :: rest =>
    match value? b with
    | none => .error (.byte b offset)
    | some v => (readSymbols (offset + 1) rest).map (v :: ·)

/-- A last group and its padding. -/
structure Tail where
  /-- The values of the symbols. -/
  symbols : List Nat
  /-- The number of padding bytes after them. -/
  padding : Nat
  deriving Repr, DecidableEq

/-- Only padding may follow padding that began at offset `first`. -/
def readPadding (first : Nat) (position : Nat) (count : Nat) : List UInt8 → Except Fault Nat
  | [] => .ok count
  | b :: rest =>
    if b = pad && position % 4 ≥ 2 then readPadding first (position + 1) (count + 1) rest
    else .error (.byte pad first)

/-- Symbols, then padding.  `start` is the offset of the group, `position` counts from there;
    padding stands only in the third and fourth place of a group of four. -/
def readTail (start position : Nat) : List UInt8 → Except Fault Tail
  | [] => .ok ⟨[], 0⟩
  | b :: rest =>
    if b = pad then
      if position % 4 < 2 then .error (.byte pad (start + position))
      else (readPadding (start + position) (position + 1) 1 rest).map fun n => ⟨[], n⟩
    else match value? b with
      | none => .error (.byte b (start + position))
      | some v =>
        (readTail start (position + 1) rest).map fun t => { t with symbols := v :: t.symbols }

/-- The offset where the last group of `width` bytes begins. -/
def tailStart (width : Nat) (text : List UInt8) : Nat := (text.length - 1) / width * width

/-- A last byte that is neither padding nor a symbol, in a text one byte longer than whole
    groups. -/
def strayLast? (text : List UInt8) : Option Fault :=
  match text.getLast? with
  | some b => if b = pad || (value? b).isSome then none else some (.byte b (text.length - 1))
  | none => none

/-- The bytes of the symbols, if the last symbol has no spare bits set. -/
def finish (text : List UInt8) (symbols : List Nat) : Except Fault (List UInt8) :=
  if spareBits symbols = 0 then .ok (pack symbols)
  else
    let offset := symbols.length - 1
    .error (.lastSymbol (text.getD offset 0) offset)

example : encode [0x41, 0x42] = ['Q', 'U', 'I', '='] := by decide
example : pack [16, 20, 8] = [0x41, 0x42] := by decide

end ProxyTrust.Base64
