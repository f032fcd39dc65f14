/-
  Fresh authorities: certificate, key and dates.

  All that is random comes in as a `Draw`, and the time as a `Moment`, so that `generate` is a
  function.

  1. **Random input** — a draw has the key, sixteen bytes for the serial number and the way in
     which the key signs.  The serial number is made positive, and its first byte is not zero.

  2. **Dates** — the certificate is valid from a day before the moment, for clocks that are
     behind, to the same calendar date ten years later.  Where there is no such date the 28th of
     the month is taken, and where there is no such year 3650 days are added.

  3. **Material** — both dates have to be written into the certificate, in a form that depends on
     the year.  A date out of range or without a form is a crash, which leaves nothing behind.
-/
import ProxyTrust.Fault
import ProxyTrust.Rsa.Key
import ProxyTrust.X509.Layout

namespace ProxyTrust.Authority

/-! ## Random input -/

/-- What chance decides about one authority. -/
structure Draw where
  key : Rsa.Key
  /-- Sixteen bytes for the serial number. -/
  serial : List UInt8
  /-- The signature of the key for a message. -/
  sign : List UInt8 → List UInt8

/-- The number of bytes of a serial number. -/
def serialLength : Nat := 16

/-- Random bytes as a serial number: positive, and with a first byte that is not zero. -/
def serialBytes : List UInt8 → List UInt8
  | [] => []
  | b :: rest => ((b &&& 0x7F) ||| 0x01) :: rest

/-! ## Dates -/

/-- The years that an authority is valid. -/
def validityYears : Nat := 10

/-- A moment some days later, unless it leaves the range of years. -/
def shift (t : Moment) (days : Int) : Except Crash Moment :=
  let later := t.addDays days
  if later.date.inRange then .ok later else .error .dateRange

/-- The same date ten years later, 28 February instead of the 29th; if there is no such year, 3650
    days later. -/
def expiry (t : Moment) : Except Crash Moment :=
  let year := t.date.year + validityYears
  match t.withYear? year with
  | some later => .ok later
  | none =>
    match (t.withDay? 28).bind (·.withYear? year) with
    | some later => .ok later
    | none => shift t (365 * validityYears)

/-! ## Material -/

/-- A fresh authority, not yet written anywhere. -/
structure Material where
  certificatePem : String
  privateKeyPem : String
  certificate : List UInt8
  notBefore : Moment
  notAfter : Moment
  deriving Repr, DecidableEq

/-- The name on every certificate. -/
def commonName : String := "terasu-proxy CA"

/-- The element of a moment. -/
def timeElement (t : Moment) : Except Crash (List UInt8) :=
  match X509.writeTime? t with
  | some bytes => .ok bytes
  | none => .error .timeForm

/-- The certificate of a draw with these dates. -/
def certify (draw : Draw) (notBefore notAfter : Moment) : Except Crash (List UInt8) := do
  let first ← timeElement notBefore
  let last ← timeElement notAfter
  let draft : X509.Draft := ⟨serialBytes draw.serial, commonName, first, last, draw.key⟩
  return draft.signed (draw.sign draft.body)

/-- The authority of a draw at a moment. -/
def generate (draw : Draw) (now : Moment) : Except Crash Material := do
  let notBefore ← shift now (-1)
  let notAfter ← expiry now
  let certificate ← certify draw notBefore notAfter
  return {
    certificatePem := Pem.encode Pem.certificateLabel certificate
    privateKeyPem := Pem.encode Pem.rsaPrivateKeyLabel draw.key.privateBytes
    certificate, notBefore, notAfter }

/-- Material for the reader of a log: no key, and the fingerprint instead of the certificate. -/
def Material.summary (m : Material) : String :=
  let print := (Fingerprint.ofBytes m.certificate).text
  let (first, last) := (m.notBefore.text, m.notAfter.text)
  "CaMaterial \x7b fingerprint: Fingerprint(\"" ++ print ++ "\"), not_before: " ++ first ++
    ", not_after: " ++ last ++ ", .. \x7d"

end ProxyTrust.Authority
