/-
  SHA-1.

  1. **Words and padding** — the message is padded to whole blocks of 64 bytes: one set bit,
     zeros, and the length of the message in bits.  Four bytes make a word, the most significant
     one first.

  2. **The rounds** — each block is stretched to eighty words, and eighty rounds mix them into
     five words of state, with another function and constant for every twenty of them.  `sha1` is
     the state after the last block, twenty bytes.
-/
import ProxyTrust.Bytes

namespace ProxyTrust.Digest

open Bytes (bigEndian)

/-! ## Words and padding -/

/-- A word turned left. -/
def rotateLeft (x : UInt32) (n : UInt32) : UInt32 := (x <<< n) ||| (x >>> (32 - n))

/-- The bytes of a word, most significant first. -/
def wordBytes (w : UInt32) : List UInt8 := bigEndian 4 w.toNat

/-- The words of a row of bytes; a last row of fewer than four bytes is dropped. -/
def toWords : List UInt8 → List UInt32
  | a :: b :: c :: d :: rest =>
    ((a.toUInt32 <<< 24) ||| (b.toUInt32 <<< 16) ||| (c.toUInt32 <<< 8) ||| d.toUInt32)
      :: toWords rest
  | _ => []

/-- The message, a one bit, zeros, and its length in bits: whole blocks of 64 bytes. -/
def padMessage (message : List UInt8) : List UInt8 :=
  let zeros := (119 - message.length % 64) % 64
  message ++ [0x80] ++ List.replicate zeros 0 ++ bigEndian 8 (message.length * 8)

/-- Blocks of sixteen words. -/
def wordBlocks (words : List UInt32) : List (List UInt32) :=
  if _h : words.length < 16 then [] else words.take 16 :: wordBlocks (words.drop 16)
termination_by words.length
decreasing_by simp only [List.length_drop]; omega

/-! ## The rounds -/

/-- The five words of state. -/
structure Sha1State where
  a : UInt32
  b : UInt32
  c : UInt32
  d : UInt32
  e : UInt32
  deriving Repr, DecidableEq

/-- The state before the first block. -/
def Sha1State.initial : Sha1State := ⟨0x67452301, 0xEFCDAB89, 0x98BADCFE, 0x10325476, 0xC3D2E1F0⟩

/-- The words of a schedule, newest first, grown by `n`. -/
def sha1Schedule : Nat → Array UInt32 → Array UInt32
  | 0, w => w
  | n + 1, w =>
    let t := w.size
    let word (i : Nat) : UInt32 := w.getD (t - i) 0
    sha1Schedule n (w.push (rotateLeft (word 3 ^^^ word 8 ^^^ word 14 ^^^ word 16) 1))

/-- The round function and constant of round `t`. -/
def sha1Mix (t : Nat) (b c d : UInt32) : UInt32 :=
  if t < 20 then ((b &&& c) ||| ((~~~b) &&& d)) + 0x5A827999
  else if t < 40 then (b ^^^ c ^^^ d) + 0x6ED9EBA1
  else if t < 60 then ((b &&& c) ||| (b &&& d) ||| (c &&& d)) + 0x8F1BBCDC
  else (b ^^^ c ^^^ d) + 0xCA62C1D6

/-- The rounds from `t` on, one for each word. -/
def sha1Rounds (t : Nat) (s : Sha1State) : List UInt32 → Sha1State
  | [] => s
  | w :: rest =>
    let a := rotateLeft s.a 5 + sha1Mix t s.b s.c s.d + s.e + w
    sha1Rounds (t + 1) ⟨a, s.a, rotateLeft s.b 30, s.c, s.d⟩ rest

/-- One block. -/
def sha1Block (s : Sha1State) (block : List UInt32) : Sha1State :=
  let r := sha1Rounds 0 s (sha1Schedule 64 block.toArray).toList
  ⟨s.a + r.a, s.b + r.b, s.c + r.c, s.d + r.d, s.e + r.e⟩

/-- The bytes of the state. -/
def Sha1State.bytes (s : Sha1State) : List UInt8 := [s.a, s.b, s.c, s.d, s.e].flatMap wordBytes

/-- The SHA-1 digest, twenty bytes. -/
def sha1 (message : List UInt8) : List UInt8 :=
  ((wordBlocks (toWords (padMessage message))).foldl sha1Block .initial).bytes

end ProxyTrust.Digest
