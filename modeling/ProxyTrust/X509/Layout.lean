/-
  The certificate of an authority, written.

  The layout is fixed: version three, a given serial number, an RSA signature over SHA-256, one
  name for issuer and subject, and three extensions.  They limit the key to signing certificates
  and revocation lists, identify the key, and make the certificate an authority over end
  certificates only.

  A `Draft` is all that differs from one certificate to the next.  Its body is what gets signed,
  and the signature stands behind the body: the signer is a parameter, so that the layout depends
  on no key.
-/
import ProxyTrust.Digest.Sha256
import ProxyTrust.Rsa.Key
import ProxyTrust.Text.Utf8
import ProxyTrust.X509.Time

namespace ProxyTrust.X509

open Der (write)

/-- What a certificate of an authority is made from. -/
structure Draft where
  /-- The bytes of the serial number. -/
  serial : List UInt8
  /-- The common name of issuer and subject. -/
  commonName : String
  /-- The elements of the two times. -/
  notBefore : List UInt8
  notAfter : List UInt8
  /-- The public key. -/
  key : Rsa.Key
  deriving Repr, DecidableEq

/-! ## Fields -/

/-- The algorithm of the signature: RSA over SHA-256. -/
def signatureAlgorithm : List UInt8 :=
  Der.sequence [write 0x06 [0x2A, 0x86, 0x48, 0x86, 0xF7, 0x0D, 0x01, 0x01, 0x0B], write 0x05 []]

/-- The version field of version three. -/
def versionThree : List UInt8 := write 0xA0 (Der.natural 2)

/-- The bytes of an INTEGER: leading zeros are dropped, and a zero stands before a set sign bit. -/
def serialElement (serial : List UInt8) : List UInt8 :=
  match serial.dropWhile (· == 0) with
  | [] => write 0x02 [0]
  | b :: rest => if b < 0x80 then write 0x02 (b :: rest) else write 0x02 (0 :: b :: rest)

/-- A name of one common name. -/
def nameElement (commonName : String) : List UInt8 :=
  let pair := [write 0x06 [0x55, 0x04, 0x03], write 0x0C (Text.encodeUtf8 commonName.toList)]
  Der.sequence [write 0x31 (Der.sequence pair)]

/-- The number of bytes of a key identifier. -/
def keyIdLength : Nat := 20

/-- The identifier of a key: the start of the digest of its public form. -/
def keyId (publicBytes : List UInt8) : List UInt8 := (Digest.sha256 publicBytes).take keyIdLength

/-- An extension with the identifier `2.5.29.n`. -/
def extension (n : UInt8) (critical : Bool) (value : List UInt8) : List UInt8 :=
  let flag := if critical then [Der.true_] else []
  Der.sequence ([write 0x06 [0x55, 0x1D, n]] ++ flag ++ [Der.octetString value])

/-- The key may sign certificates and revocation lists. -/
def keyUsage : List UInt8 := extension 15 true (write 0x03 [0x07, 0x06, 0x00])

/-- The identifier of the key. -/
def subjectKeyId (key : Rsa.Key) : List UInt8 :=
  extension 14 false (Der.octetString (keyId key.publicBytes))

/-- An authority, with no further authority below it. -/
def basicConstraints : List UInt8 := extension 19 true (Der.sequence [Der.true_, Der.natural 0])

/-! ## The whole -/

/-- What is signed. -/
def Draft.body (d : Draft) : List UInt8 :=
  Der.sequence [versionThree, serialElement d.serial, signatureAlgorithm, nameElement d.commonName,
    Der.sequence [d.notBefore, d.notAfter], nameElement d.commonName, d.key.publicBytes,
    write 0xA3 (Der.sequence [keyUsage, subjectKeyId d.key, basicConstraints])]

/-- The certificate with a signature of its body. -/
def Draft.signed (d : Draft) (signature : List UInt8) : List UInt8 :=
  Der.sequence [d.body, signatureAlgorithm, Der.bitString signature]

end ProxyTrust.X509
