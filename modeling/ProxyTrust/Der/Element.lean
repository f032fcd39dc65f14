/-
  Elements: a tag, a length and a content.

  Every value of a certificate is an element.

  1. **Headers** — `header` reads a tag and a length and hands back the bytes that follow.  A tag
     with all five bits set goes on in the bytes after it.  A length may be written in more bytes
     than it needs.

  2. **Elements** — `element` also takes the content.  An element may hold others, which are read
     from its content in the same way.

  3. **Indefinite lengths** — they have no place in a certificate, except inside a serial number,
     which `looseElement?` reads by the wider rules: such a content ends at an empty element of
     tag zero.

  4. **Writing** — the shortest length, and numbers with a zero byte in front where the first bit
     is set, so that they are positive.
-/
import ProxyTrust.Bytes

namespace ProxyTrust.Der

/-! ## Faults -/

/-- Why bytes are not the element that is wanted. -/
inductive Fault where
  /-- The header is cut short, by at least this many bytes. -/
  | short (missing : Nat)
  | badTag
  | badLength
  /-- The length is indefinite. -/
  | indefinite
  /-- The content is cut short. -/
  | truncated
  /-- Another tag number than the one wanted. -/
  | unexpected (wanted found : Nat)
  deriving Repr, DecidableEq

/-- What a reader gives: a value and the bytes after it. -/
abbrev Reading (α : Type) := Except Fault (α × List UInt8)

/-! ## Headers -/

/-- The four families of tags, by their two bits. -/
inductive TagClass where
  | universal | application | context | private_
  deriving Repr, DecidableEq

/-- The class in the top bits of a first byte. -/
def TagClass.ofByte (b : UInt8) : TagClass :=
  if b < 0x40 then universal else if b < 0x80 then application
  else if b < 0xC0 then context else private_

/-- A tag and a length. -/
structure Header where
  tagClass : TagClass
  /-- The content is made of elements. -/
  constructed : Bool
  tag : Nat
  /-- The number of content bytes; none if it is indefinite. -/
  length : Option Nat
  deriving Repr, DecidableEq

/-- The most bytes that a tag number takes after the first byte. -/
def highTagBytes : Nat := 5

/-- A tag number in base 128, the last byte below 128; `count` bytes are read and spell `acc`.  The
    number is a word of 32 bits. -/
def readHighTag (count acc : Nat) : List UInt8 → Reading Nat
  | [] => .error .badTag
  | b :: rest =>
    if highTagBytes ≤ count then .error .badTag
    else
      let acc := (acc * 128 + b.toNat % 128) % 4294967296
      if b < 0x80 then .ok (acc, rest) else readHighTag (count + 1) acc rest

/-- A tag number. -/
def readTag : List UInt8 → Reading (UInt8 × Nat)
  | [] => .error (.short 1)
  | b :: rest =>
    if b.toNat % 32 = 31 then (readHighTag 0 0 rest).map fun r => ((b, r.1), r.2)
    else .ok ((b, b.toNat % 32), rest)

/-- A length: one byte below 128, or a count of bytes that spell it. -/
def readLength : List UInt8 → Reading (Option Nat)
  | [] => .error (.short 1)
  | b :: rest =>
    if b < 0x80 then .ok (some b.toNat, rest)
    else if b = 0x80 then .ok (none, rest)
    else if b = 0xFF then .error .badLength
    else
      let count := b.toNat - 0x80
      if rest.length < count then .error (.short (count - rest.length))
      else
        let length := Bytes.ofBigEndian (rest.take count)
        if 18446744073709551616 ≤ length then .error .badLength
        else .ok (some length, rest.drop count)

/-- A header, of definite or indefinite length. -/
def looseHeader (bytes : List UInt8) : Reading Header :=
  match readTag bytes with
  | .error fault => .error fault
  | .ok ((b, tag), rest) =>
    match readLength rest with
    | .error fault => .error fault
    | .ok (length, rest) => .ok (⟨.ofByte b, 0x20 ≤ b.toNat % 64, tag, length⟩, rest)

/-- A header of definite length, with that length. -/
def header (bytes : List UInt8) : Reading (Header × Nat) :=
  match looseHeader bytes with
  | .error fault => .error fault
  | .ok (h, rest) =>
    match h.length with
    | some length => .ok ((h, length), rest)
    | none => .error .indefinite

/-! ## Elements -/

/-- A header and its content. -/
structure Element where
  header : Header
  content : List UInt8
  deriving Repr, DecidableEq

/-- The next `count` bytes. -/
def takeContent (count : Nat) (bytes : List UInt8) : Reading (List UInt8) :=
  if bytes.length < count then .error .truncated else .ok (bytes.take count, bytes.drop count)

/-- An element of definite length. -/
def element (bytes : List UInt8) : Reading Element :=
  match header bytes with
  | .error fault => .error fault
  | .ok ((h, length), rest) => (takeContent length rest).map fun r => (⟨h, r.1⟩, r.2)

/-- The content of an element with this tag number, of any class. -/
def contentOf (tag : Nat) (bytes : List UInt8) : Reading (List UInt8) :=
  match element bytes with
  | .error fault => .error fault
  | .ok (e, rest) =>
    if e.header.tag = tag then .ok (e.content, rest) else .error (.unexpected tag e.header.tag)

/-- The bytes that a reading consumed. -/
def consumed (bytes rest : List UInt8) : List UInt8 := bytes.take (bytes.length - rest.length)

/-! ## Indefinite lengths -/

/-- The deepest nesting of indefinite lengths. -/
def nestingLimit : Nat := 50

/-- The bytes after the end of `depth` open contents.  Every element inside takes two bytes or more,
    so `fuel` as long as the bytes is enough. -/
def skipOpen (fuel depth : Nat) (bytes : List UInt8) : Option (List UInt8) :=
  match fuel with
  | 0 => none
  | fuel + 1 =>
    if nestingLimit ≤ depth then none
    else match looseHeader bytes with
      | .error _ => none
      | .ok (h, rest) =>
        match h.length with
        | some 0 =>
          if h.tag = 0 then (if depth = 1 then some rest else skipOpen fuel (depth - 1) rest)
          else skipOpen fuel depth rest
        | some length =>
          if rest.length < length then none else skipOpen fuel depth (rest.drop length)
        | none => if h.constructed then skipOpen fuel (depth + 1) rest else none

/-- An element whose content, if it is constructed, may end with an end mark instead of a length. -/
def looseElement? (bytes : List UInt8) : Option (Element × List UInt8) :=
  match looseHeader bytes with
  | .error _ => none
  | .ok (h, rest) =>
    match h.length with
    | some length =>
      if rest.length < length then none else some (⟨h, rest.take length⟩, rest.drop length)
    | none =>
      if h.constructed then
        (skipOpen rest.length 1 rest).map fun after =>
          (⟨h, rest.take (rest.length - after.length - 2)⟩, after)
      else none

/-! ## Writing -/

/-- A length in the fewest bytes. -/
def lengthBytes (n : Nat) : List UInt8 :=
  if n < 0x80 then [UInt8.ofNat n]
  else
    let digits := Bytes.minimalBytes n
    UInt8.ofNat (0x80 + digits.length) :: digits

/-- The element of a one-byte tag and a content. -/
def write (tag : UInt8) (content : List UInt8) : List UInt8 :=
  tag :: (lengthBytes content.length ++ content)

/-- A SEQUENCE of written elements. -/
def sequence (parts : List (List UInt8)) : List UInt8 := write 0x30 parts.flatten

/-- The shortest content of a number that is not negative: a zero byte stands before a set sign
    bit. -/
def naturalContent (n : Nat) : List UInt8 :=
  match Bytes.minimalBytes n with
  | [] => [0]
  | b :: rest => if b < 0x80 then b :: rest else 0 :: b :: rest

/-- An INTEGER that is not negative. -/
def natural (n : Nat) : List UInt8 := write 0x02 (naturalContent n)

/-- A BIT STRING of whole bytes. -/
def bitString (bytes : List UInt8) : List UInt8 := write 0x03 (0 :: bytes)

/-- An OCTET STRING. -/
def octetString (bytes : List UInt8) : List UInt8 := write 0x04 bytes

/-- The BOOLEAN true. -/
def true_ : List UInt8 := write 0x01 [0xFF]

example : natural 200 = [0x02, 0x02, 0x00, 0xC8] := by decide
example : lengthBytes 300 = [0x82, 0x01, 0x2C] := by decide
example : contentOf 2 [0x02, 0x81, 0x01, 0x05, 0x09] = .ok ([0x05], [0x09]) := rfl
example : looseElement? [0x22, 0x80, 0x02, 0x01, 0x05, 0x00, 0x00, 0x07] =
    some (⟨⟨.universal, true, 2, none⟩, [0x02, 0x01, 0x05]⟩, [0x07]) := rfl

end ProxyTrust.Der
