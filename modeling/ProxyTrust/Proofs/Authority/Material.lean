/-
  What a generated authority reads as.

  1. **What was generated** — the parts of the material, each by the step that makes it
     (`generate_eq_ok`).  From there on no proof looks at the steps again: `Generated` is what
     they are about.

  2. **The serial number** — its first byte is neither zero nor above 127, so that its sixteen
     bytes are the shortest content of a positive INTEGER, and the number that is read has the
     bytes that were drawn but for that one.

  3. **The dates** — a day earlier, by the count of days; and the instant of a time that was
     written, whichever of the two forms it was written in.

  4. **All of it** — `generated_reads_back`: the armoured forms are read back, the certificate is
     accepted, and it holds the instants asked for.  The certificate is one of a draft, so that
     what is read of it is what was put in (`X509.read_signed`), and the armour is taken off by
     the theorem on single blocks.
-/
import ProxyTrust.Proofs.Authority.CertificateFile
import ProxyTrust.Proofs.Outcome
import ProxyTrust.Proofs.X509.Certificate

namespace ProxyTrust.Authority

open Bytes (ofBigEndian)
open X509 (Certificate)

variable {draw : Draw} {now : Moment} {m : Material}

/-! ## What was generated -/

/-- The draft that the material of a draw is made from, with the elements of the two times. -/
def draftOf (draw : Draw) (first last : List UInt8) : X509.Draft :=
  ⟨serialBytes draw.serial, commonName, first, last, draw.key⟩

/-- The parts of generated material. -/
structure Generated (draw : Draw) (now : Moment) (m : Material) (first last : List UInt8) :
    Prop where
  notBefore : shift now (-1) = .ok m.notBefore
  notAfter : expiry now = .ok m.notAfter
  firstElement : X509.writeTime? m.notBefore = some first
  lastElement : X509.writeTime? m.notAfter = some last
  madeCertificate : m.certificate
    = (draftOf draw first last).signed (draw.sign (draftOf draw first last).body)
  certificatePem : m.certificatePem = Pem.encode Pem.certificateLabel m.certificate
  privateKeyPem : m.privateKeyPem = Pem.encode Pem.rsaPrivateKeyLabel draw.key.privateBytes

/-- What is written for a time is what the writer of times gives. -/
theorem timeElement_eq_ok {t : Moment} {bytes : List UInt8} (h : timeElement t = .ok bytes) :
    X509.writeTime? t = some bytes := by
  unfold timeElement at h
  split at h
  · next written hwritten => exact hwritten.trans (congrArg some (Except.ok.inj h))
  · nomatch h

/-- Generated material has all its parts, each made by its own step. -/
theorem generate_eq_ok (h : generate draw now = .ok m) :
    ∃ first last, Generated draw now m first last := by
  obtain ⟨notBefore, hbefore, h⟩ := bind_eq_ok_iff.mp h
  obtain ⟨notAfter, hafter, h⟩ := bind_eq_ok_iff.mp h
  obtain ⟨certificate, hcertificate, h⟩ := bind_eq_ok_iff.mp h
  obtain ⟨first, hfirst, hcertificate⟩ := bind_eq_ok_iff.mp hcertificate
  obtain ⟨last, hlast, hcertificate⟩ := bind_eq_ok_iff.mp hcertificate
  obtain rfl := Except.ok.inj h
  exact ⟨first, last, hbefore, hafter, timeElement_eq_ok hfirst, timeElement_eq_ok hlast,
    (Except.ok.inj hcertificate).symm, rfl, rfl⟩

/-! ## The serial number -/

/-- The first byte is odd and has no sign bit. -/
theorem firstSerialByte (b : UInt8) : (b &&& 0x7F) ||| 0x01 ≠ 0 ∧ (b &&& 0x7F) ||| 0x01 < 0x80 := by
  have hall : ∀ n < 256, n &&& 127 ||| 1 ≠ 0 ∧ n &&& 127 ||| 1 < 128 := by decide +kernel
  have hvalue : ((b &&& 0x7F) ||| 0x01).toNat = b.toNat &&& 127 ||| 1 := by
    rw [UInt8.toNat_or, UInt8.toNat_and]
    rfl
  obtain ⟨hne, hlt⟩ := hall b.toNat b.toNat_lt
  constructor
  · intro hzero
    rw [hzero] at hvalue
    exact hne hvalue.symm
  · rw [UInt8.lt_iff_toNat_lt, hvalue]
    exact hlt

/-- Serial bytes are the shortest content of the positive number that they spell. -/
theorem serialBytes_minimal {serial : List UInt8} (h : serial ≠ []) :
    Der.naturalContent (ofBigEndian (serialBytes serial)) = serialBytes serial
      ∧ 0 < ofBigEndian (serialBytes serial) := by
  cases serial with
  | nil => exact absurd rfl h
  | cons b rest =>
    obtain ⟨hne, hlow⟩ := firstSerialByte b
    rw [serialBytes]
    constructor
    · -- no zero byte stands in front, and none has to be put there
      rw [Der.naturalContent, Bytes.minimalBytes_ofBigEndian hne]
      exact if_pos hlow
    · have hfirst : 0 < ((b &&& 0x7F) ||| 0x01).toNat := by
        rcases Nat.eq_zero_or_pos ((b &&& 0x7F) ||| 0x01).toNat with hzero | hpos
        · exact absurd (UInt8.toNat_inj.mp hzero) hne
        · exact hpos
      rw [Bytes.ofBigEndian_cons]
      exact Nat.add_pos_left (Nat.mul_pos hfirst (Bytes.rowCount_pos _)) _

/-- The first byte is changed, and no byte is added. -/
theorem length_serialBytes (serial : List UInt8) : (serialBytes serial).length = serial.length := by
  cases serial with
  | nil => rfl
  | cons b rest => rfl

/-! ## The dates -/

/-- A shift by days moves the seconds by as many days. -/
theorem unix_of_shift {t later : Moment} {days : Int} (h : shift t days = .ok later) :
    later.unix = t.unix + days * Moment.daySeconds := by
  rw [shift] at h
  split at h
  · obtain rfl := Except.ok.inj h
    exact Moment.unix_addDays t days
  · nomatch h

/-! ## All of it -/

/-- A moment shows an instant in whole seconds, in UTC. -/
structure ShowsInstant (t : Moment) (unix : Int) : Prop where
  unix : t.unix = unix
  nanos : t.nanos = 0
  offset : t.offset = 0

theorem showsInstant_ofUnix (unix : Int) : ShowsInstant (.ofUnix unix 0 0) unix :=
  ⟨Moment.unix_ofUnix unix 0 0, rfl, rfl⟩

/-- The shortest content of a positive INTEGER. -/
structure PositiveInteger (content : List UInt8) : Prop where
  positive : 0 < ofBigEndian content
  minimal : content = Der.naturalContent (ofBigEndian content)

/-- What is read of a generated certificate. -/
def Generated.certificate (draw : Draw) (m : Material) (first last : List UInt8) : Certificate :=
  (draftOf draw first last).certificate (draw.sign (draftOf draw first last).body)
    (.ofUnix m.notBefore.unix 0 0) (.ofUnix m.notAfter.unix 0 0)

variable {first last : List UInt8}

/-- The certificate that was generated is accepted to its last byte. -/
theorem Generated.read (h : Generated draw now m first last)
    (hlength : m.certificate.length < Der.lengthBound) :
    Certificate.read m.certificate = .ok (certificate draw m first last, []) := by
  have hsigned := h.madeCertificate
  rw [hsigned] at hlength
  rw [hsigned]
  exact X509.Draft.read_signed hlength (X509.time_of_writeTime? h.firstElement)
    (X509.time_of_writeTime? h.lastElement)

/-- A file of the armoured certificate has the fingerprint of the certificate. -/
theorem Generated.fingerprintAt (h : Generated draw now m first last)
    (hlength : m.certificate.length < Der.lengthBound) {fs : FileSystem} {p : Path}
    (hread : fs.read p = .ok (Text.encodeUtf8 m.certificatePem.toList)) :
    Authority.fingerprintAt fs p = .ok (Fingerprint.ofBytes m.certificate) := by
  rw [h.certificatePem] at hread
  rw [fingerprintAt_block plainLabel_certificateLabel hread, if_pos rfl]
  exact fingerprintOfCertificate_eq_ok_iff.mpr ⟨_, h.read hlength⟩

/-- Both dates are read in whole seconds. -/
theorem Generated.validity :
    ShowsInstant (certificate draw m first last).validity.notBefore m.notBefore.unix
      ∧ ShowsInstant (certificate draw m first last).validity.notAfter m.notAfter.unix :=
  ⟨showsInstant_ofUnix m.notBefore.unix, showsInstant_ofUnix m.notAfter.unix⟩

/-- The serial number of the certificate is the drawn one with its first byte changed. -/
theorem Generated.serial (hserial : draw.serial ≠ []) :
    (certificate draw m first last).serial = serialBytes draw.serial :=
  (serialBytes_minimal hserial).1

/-- A generated authority is readable and carries the dates asked for, whatever the moment, the
    key, the signature and the sixteen random bytes are, as long as the certificate's length is a
    word of 64 bits.  The armoured forms hold the certificate and the key, a file of the former
    has the certificate's fingerprint, the certificate is valid from a day before the moment to
    its expiry, in whole seconds, and its serial number is positive and takes sixteen bytes. -/
theorem generated_reads_back (hserial : draw.serial.length = serialLength)
    (hgenerated : generate draw now = .ok m) (hlength : m.certificate.length < Der.lengthBound) :
    Pem.decode Pem.certificateLabel m.certificatePem = .ok m.certificate
    ∧ Pem.decode Pem.rsaPrivateKeyLabel m.privateKeyPem = .ok draw.key.privateBytes
    ∧ (∀ (fs : FileSystem) (p : Path), fs.read p = .ok (Text.encodeUtf8 m.certificatePem.toList) →
      fingerprintAt fs p = .ok (Fingerprint.ofBytes m.certificate))
    ∧ m.notBefore.unix = now.unix - Moment.daySeconds
    ∧ expiry now = .ok m.notAfter
    ∧ ∃ certificate, Certificate.read m.certificate = .ok (certificate, [])
      ∧ ShowsInstant certificate.validity.notBefore m.notBefore.unix
      ∧ ShowsInstant certificate.validity.notAfter m.notAfter.unix
      ∧ certificate.serial.length = 16
      ∧ PositiveInteger certificate.serial := by
  obtain ⟨first, last, h⟩ := generate_eq_ok hgenerated
  have hsome : draw.serial ≠ [] := by
    intro hnil
    rw [hnil] at hserial
    nomatch hserial
  have hbytes : (Generated.certificate draw m first last).serial = serialBytes draw.serial :=
    Generated.serial hsome
  obtain ⟨hminimal, hpositive⟩ := serialBytes_minimal hsome
  refine ⟨?_, ?_, fun fs p => h.fingerprintAt hlength, ?_, h.notAfter,
    Generated.certificate draw m first last, h.read hlength, Generated.validity.1,
      Generated.validity.2, ?_, ?_⟩
  · rw [h.certificatePem]
    exact Pem.decode_encode _ _
  · rw [h.privateKeyPem]
    exact Pem.decode_encode _ _
  · -- valid since a day before the moment
    rw [unix_of_shift h.notBefore]
    omega
  · -- the serial number, of sixteen bytes, positive and in its shortest form
    rw [hbytes, length_serialBytes]
    exact hserial
  · rw [hbytes]
    exact ⟨hpositive, hminimal.symm⟩

/-! ## An authority of the year 1950 -/

/-- A small key, all bits of the serial number set, and the message itself for a signature. -/
def earlyDraw : Draw := ⟨⟨33, 3, 7, 3, 11⟩, List.replicate 16 0xFF, id⟩

/-- Half a second after half past midnight of the first day of 1950, an hour east. -/
def earlyNow : Moment := ⟨⟨1950, 1, 1⟩, 1800, 500000000, 3600⟩

theorem early_generate :
    ∃ m, generate earlyDraw earlyNow = .ok m ∧ m.certificate.length < Der.lengthBound := by
  have hshort : (match generate earlyDraw earlyNow with
      | .ok m => decide (m.certificate.length < Der.lengthBound)
      | .error _ => false) = true := by decide +kernel
  split at hshort
  · next m hm => exact ⟨m, hm, of_decide_eq_true hshort⟩
  · nomatch hshort

/-- An authority generated in 1949: the date before it lies a century before those that two digits
    can tell. -/
theorem generated_reads_back_early :
    ∃ m, earlyDraw.serial.length = serialLength
      ∧ generate earlyDraw earlyNow = .ok m
      ∧ m.certificate.length < Der.lengthBound
      ∧ Pem.decode Pem.certificateLabel m.certificatePem = .ok m.certificate
      ∧ ∃ certificate, Certificate.read m.certificate = .ok (certificate, [])
        ∧ ShowsInstant certificate.validity.notBefore (-631240200)
        ∧ certificate.serial.length = 16 := by
  obtain ⟨m, hm, hlength⟩ := early_generate
  obtain ⟨hdecode, -, -, hbefore, -, certificate, hread, hfirst, -, hserial, -⟩ :=
    generated_reads_back (by rfl) hm hlength
  have hinstant : m.notBefore.unix = -631240200 := by
    rw [hbefore]
    decide +kernel
  exact ⟨m, rfl, hm, hlength, hdecode, certificate, hread, hinstant ▸ hfirst, hserial⟩

end ProxyTrust.Authority
