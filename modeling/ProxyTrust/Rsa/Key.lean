/-
  RSA keys, their two byte forms, and signatures.

  1. **Residues** — powers by squaring, and inverses from the factors of a greatest common divisor.

  2. **Keys** — a key is made from two primes and a public exponent.

  3. **Byte forms** — the private form is a SEQUENCE of a version, modulus, exponents, primes and
     three numbers that speed up signing; the public form names the algorithm before modulus and
     exponent.

  4. **Signatures** — over SHA-256 with the older padding: the digest, with its algorithm before it,
     is filled up with bytes of ones to the length of the modulus.  The signature is the residue
     whose public power is that number.
-/
import ProxyTrust.Der.Element
import ProxyTrust.Digest.Sha256

namespace ProxyTrust.Rsa

/-! ## Residues -/

/-- The residue of `base ^ exponent`, by squaring. -/
def powMod (base exponent modulus : Nat) : Nat :=
  if exponent = 0 then 1 % modulus
  else
    let half := powMod (base * base % modulus) (exponent / 2) modulus
    if exponent % 2 = 1 then base * half % modulus else half
termination_by exponent
decreasing_by omega

/-- Factors `x` and `y` with `a * x + b * y` the greatest common divisor. -/
def bezout (a b : Nat) : Int × Int :=
  if b = 0 then (1, 0)
  else
    let (x, y) := bezout b (a % b)
    (y, x - (a / b : Nat) * y)
termination_by b
decreasing_by exact Nat.mod_lt _ (by omega)

/-- The inverse of a residue, if it has one. -/
def inverse (a modulus : Nat) : Nat := ((bezout a modulus).1 % modulus).toNat

/-! ## Keys -/

/-- An RSA key pair. -/
structure Key where
  modulus : Nat
  exponent : Nat
  secret : Nat
  firstPrime : Nat
  secondPrime : Nat
  deriving Repr, DecidableEq

/-- The public exponent of every key made here. -/
def publicExponent : Nat := 65537

namespace Key

/-- The key of two primes. -/
def ofPrimes (p q : Nat) : Key :=
  ⟨p * q, publicExponent, inverse publicExponent ((p - 1) * (q - 1)), p, q⟩

/-- The number of bits of the modulus. -/
def bitLength (k : Key) : Nat := if k.modulus = 0 then 0 else k.modulus.log2 + 1

/-- The number of bytes of the modulus. -/
def byteLength (k : Key) : Nat := (k.bitLength + 7) / 8

/-- The primes give the modulus, and the two exponents undo each other. -/
def isConsistent (k : Key) : Bool :=
  1 < k.firstPrime && 1 < k.secondPrime && k.firstPrime * k.secondPrime == k.modulus &&
    k.exponent * k.secret % (k.firstPrime - 1) == 1 &&
    k.exponent * k.secret % (k.secondPrime - 1) == 1

/-! ## The private form -/

/-- The numbers of the private form, in order. -/
def privateNumbers (k : Key) : List Nat :=
  [0, k.modulus, k.exponent, k.secret, k.firstPrime, k.secondPrime, k.secret % (k.firstPrime - 1),
    k.secret % (k.secondPrime - 1), inverse k.secondPrime k.firstPrime]

/-- The private form. -/
def privateBytes (k : Key) : List UInt8 := Der.sequence (k.privateNumbers.map Der.natural)

/-- The INTEGERs at the start of the bytes, at most `count` of them. -/
def readNaturals (count : Nat) (bytes : List UInt8) : List Nat :=
  match count with
  | 0 => []
  | count + 1 =>
    match Der.contentOf 2 bytes with
    | .ok (content, rest) => Bytes.ofBigEndian content :: readNaturals count rest
    | .error _ => []

/-- The key of a private form. -/
def ofPrivateBytes? (bytes : List UInt8) : Option Key :=
  match Der.contentOf 16 bytes with
  | .error _ => none
  | .ok (content, _) =>
    match readNaturals 6 content with
    | [0, n, e, d, p, q] => some ⟨n, e, d, p, q⟩
    | _ => none

/-! ## The public form -/

/-- The object identifier of RSA encryption. -/
def rsaEncryption : List UInt8 :=
  Der.write 0x06 [0x2A, 0x86, 0x48, 0x86, 0xF7, 0x0D, 0x01, 0x01, 0x01]

/-- The modulus and the public exponent. -/
def publicNumbers (k : Key) : List UInt8 :=
  Der.sequence [Der.natural k.modulus, Der.natural k.exponent]

/-- The public form: the algorithm and the numbers. -/
def publicBytes (k : Key) : List UInt8 :=
  Der.sequence [Der.sequence [rsaEncryption, Der.write 0x05 []], Der.bitString k.publicNumbers]

end Key

/-! ## Signatures -/

/-- The digest and its algorithm. -/
def digestInfo (message : List UInt8) : List UInt8 :=
  let sha256Id := Der.write 0x06 [0x60, 0x86, 0x48, 0x01, 0x65, 0x03, 0x04, 0x02, 0x01]
  Der.sequence [Der.sequence [sha256Id, Der.write 0x05 []], Der.octetString (Digest.sha256 message)]

/-- The bytes that a signature of `length` bytes stands for. -/
def paddedDigest (length : Nat) (message : List UInt8) : List UInt8 :=
  let info := digestInfo message
  [0x00, 0x01] ++ List.replicate (length - info.length - 3) 0xFF ++ [0x00] ++ info

namespace Key

/-- The signature of a message. -/
def sign (k : Key) (message : List UInt8) : List UInt8 :=
  let block := Bytes.ofBigEndian (paddedDigest k.byteLength message)
  Bytes.bigEndian k.byteLength (powMod block k.secret k.modulus)

/-- The signature is one of the message by the key with this modulus and exponent. -/
def verifies (modulus exponent : Nat) (message signature : List UInt8) : Bool :=
  let opened := powMod (Bytes.ofBigEndian signature) exponent modulus
  Bytes.bigEndian signature.length opened == paddedDigest signature.length message

end Key

end ProxyTrust.Rsa
