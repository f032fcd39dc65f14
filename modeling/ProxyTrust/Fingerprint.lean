/-
  Fingerprints of certificates.

  A fingerprint is the SHA-1 digest of a certificate's bytes as forty upper-case hexadecimal
  digits.

  `ofText?` reads one from any spelling: it keeps the hexadecimal digits, in upper case, and drops
  all else.  Only the number of digits decides whether a text is read, so that colons, blanks and
  any other characters may stand between them.

  No other text becomes a fingerprint, which is why one can be put into a command without quoting.
-/
import ProxyTrust.Bytes
import ProxyTrust.Digest.Sha1

namespace ProxyTrust

/-- The thumbprint by which the trust stores of Windows and macOS know a certificate. -/
structure Fingerprint where
  text : String
  deriving Repr, DecidableEq

namespace Fingerprint

/-- The number of digits of a fingerprint. -/
def digitCount : Nat := 40

/-- An ASCII lower-case letter in upper case; every other character unchanged. -/
def upperAscii (c : Char) : Char := if 'a' ≤ c && c ≤ 'z' then Char.ofNat (c.toNat - 32) else c

/-- The hexadecimal digits of a text, in upper case. -/
def normalChars (s : List Char) : List Char := (s.filter Bytes.isHexDigit).map upperAscii

/-- The hexadecimal digits of a text, in upper case. -/
def normalize (text : String) : String := String.ofList (normalChars text.toList)

/-- The fingerprint of a certificate's bytes. -/
def ofBytes (certificate : List UInt8) : Fingerprint :=
  ⟨String.ofList (Bytes.hexUpper (Digest.sha1 certificate))⟩

/-- The fingerprint that a text spells, with any separators and in either case. -/
def ofText? (text : String) : Option Fingerprint :=
  let digits := normalChars text.toList
  if digits.length = digitCount then some ⟨String.ofList digits⟩ else none

/-- The message for a text that spells none. -/
def malformedMessage (text : String) : String :=
  s!"'{text}' is not a SHA-1 fingerprint (expected 40 hex digits)"

end Fingerprint

end ProxyTrust
