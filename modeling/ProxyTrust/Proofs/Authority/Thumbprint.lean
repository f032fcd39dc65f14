/-
  What the fingerprint of a certificate file is the digest of.

  1. **Extent** — a certificate is read off the front of its block, and nothing behind it plays a
     part: `read_eq_ok_iff` cuts a block that is accepted into the element of the certificate and
     the bytes behind it.  Every reader on the way takes its bytes off the front in the same sense
     (`TakesFront`), so that the statement about certificates is put together from those about
     elements, one for each stage.

  2. **Digest** — the block is accepted by the element alone, and the digest is over the block.
     `fingerprint_covers_block` says so for all files, and when the fingerprint is that of the
     element all the same: where nothing is behind it, or where the two digests collide.

  3. **A byte behind the certificate** — one is enough for another fingerprint.
-/
import ProxyTrust.Proofs.Authority.CertificateFile
import ProxyTrust.Proofs.Der.Extent
import ProxyTrust.Proofs.Fingerprint

namespace ProxyTrust

/-! ## Extent -/

namespace X509

open Der (TakesFront)

variable {bytes element rest : List UInt8} {c : Certificate}

/-- A fault of the encoding is only renamed, so that success is the same on both sides. -/
theorem ofDer_eq_ok_iff {α : Type} {reading : Der.Reading α} {r : α × List UInt8} :
    ofDer reading = .ok r ↔ reading = .ok r := by
  cases reading with
  | error fault => simp [ofDer]
  | ok read => simp [ofDer]

/-- A SEQUENCE is taken off the front, and what follows it plays no part. -/
theorem takesFront_sequence : TakesFront sequence := by
  intro bytes content rest h
  obtain ⟨front, rfl, hfront⟩ := Der.takesFront_contentOf _ _ _ _ (ofDer_eq_ok_iff.mp h)
  exact ⟨front, rfl, fun other => ofDer_eq_ok_iff.mpr (hfront other)⟩

/-- Only the outermost element sees what is behind the certificate. -/
theorem takesFront_read : TakesFront Certificate.read := by
  intro bytes c rest h
  rw [Certificate.read] at h
  obtain ⟨⟨content, after⟩, hsequence, h⟩ := bind_eq_ok_iff.mp h
  obtain ⟨⟨bodyContent, behind⟩, hbody, h⟩ := bind_eq_ok_iff.mp h
  obtain ⟨certificate, hfields, h⟩ := bind_eq_ok_iff.mp h
  obtain ⟨⟨_, last⟩, halgorithm, h⟩ := bind_eq_ok_iff.mp h
  obtain ⟨⟨signature, _⟩, hsignature, h⟩ := bind_eq_ok_iff.mp h
  obtain ⟨rfl, rfl⟩ := Prod.mk.inj (Except.ok.inj h)
  obtain ⟨front, rfl, hfront⟩ := takesFront_sequence _ _ _ hsequence
  refine ⟨front, rfl, fun other => ?_⟩
  simp only [Certificate.read, hfront other, hbody, hfields, halgorithm, hsignature, bind,
    Except.bind]
  rfl

/-- The bytes are this certificate and nothing else: it is read, whatever stands behind them. -/
def IsElement (element : List UInt8) (c : Certificate) : Prop :=
  ∀ rest, Certificate.read (element ++ rest) = .ok (c, rest)

/-- A block is accepted exactly if a certificate stands at its front. -/
theorem read_eq_ok_iff :
    Certificate.read bytes = .ok (c, rest)
      ↔ ∃ element, bytes = element ++ rest ∧ IsElement element c := by
  constructor
  · intro h
    exact takesFront_read _ _ _ h
  · rintro ⟨element, rfl, h⟩
    exact h rest

/-- Bytes that are read as a certificate with nothing left over are its element. -/
theorem isElement_of_read (h : Certificate.read element = .ok (c, [])) : IsElement element c := by
  obtain ⟨front, hfront, helement⟩ := read_eq_ok_iff.mp h
  rw [List.append_nil] at hfront
  rwa [hfront]

end X509

/-! ## Digest -/

namespace Authority

open X509 (IsElement)

variable {fs : FileSystem} {p : Path} {block element behind : List UInt8} {print : Fingerprint}

/-- The first certificate block of the file at a path holds the element of a certificate, and
    these bytes behind it. -/
def CertificateAt (fs : FileSystem) (p : Path) (element behind : List UInt8) : Prop :=
  ∃ file c, fs.read p = .ok file ∧ firstCertificate p file = .ok (element ++ behind)
    ∧ IsElement element c

/-- A file has a fingerprint exactly if a certificate is read from its first block, and it is the
    digest of the whole block. -/
theorem fingerprintOf_eq_ok_iff {file : List UInt8} :
    fingerprintOf p file = .ok print
      ↔ ∃ block c rest, firstCertificate p file = .ok block
        ∧ X509.Certificate.read block = .ok (c, rest) ∧ Fingerprint.ofBytes block = print := by
  rw [fingerprintOf]
  cases firstCertificate p file with
  | error fault => simp
  | ok block =>
    cases hread : X509.Certificate.read block with
    | error fault => simp [hread]
    | ok r =>
      obtain ⟨c, rest⟩ := r
      simp [hread]

/-- The fingerprint is over the whole block. -/
theorem fingerprintAt_eq_ok_iff :
    fingerprintAt fs p = .ok print
      ↔ ∃ element behind, CertificateAt fs p element behind
        ∧ Fingerprint.ofBytes (element ++ behind) = print := by
  rw [fingerprintAt]
  constructor
  · intro h
    split at h
    · cases h
    · next file hfile =>
      obtain ⟨block, c, rest, hfirst, hread, rfl⟩ := fingerprintOf_eq_ok_iff.mp h
      obtain ⟨element, rfl, helement⟩ := X509.read_eq_ok_iff.mp hread
      exact ⟨element, rest, ⟨file, c, hfile, hfirst, helement⟩, rfl⟩
  · rintro ⟨element, behind, ⟨file, c, hfile, hfirst, helement⟩, rfl⟩
    rw [hfile]
    exact fingerprintOf_eq_ok_iff.mpr ⟨_, c, behind, hfirst, helement behind, rfl⟩

/-- The digest is over the element and what stands behind it. -/
theorem CertificateAt.fingerprintAt_eq (h : CertificateAt fs p element behind) :
    fingerprintAt fs p = .ok (Fingerprint.ofBytes (element ++ behind)) :=
  fingerprintAt_eq_ok_iff.mpr ⟨element, behind, h, rfl⟩

/-- A block holds one certificate at its front. -/
theorem CertificateAt.unique {element' behind' : List UInt8} (h : CertificateAt fs p element behind)
    (h' : CertificateAt fs p element' behind') : element = element' ∧ behind = behind' := by
  obtain ⟨file, c, hfile, hfirst, helement⟩ := h
  obtain ⟨file', c', hfile', hfirst', helement'⟩ := h'
  obtain rfl : file = file' := Except.ok.inj (hfile.symm.trans hfile')
  have hblock : element ++ behind = element' ++ behind' := Except.ok.inj (hfirst.symm.trans hfirst')
  have hread := helement behind
  rw [hblock, helement' behind'] at hread
  obtain ⟨-, rfl⟩ := Prod.mk.inj (Except.ok.inj hread)
  exact ⟨List.append_cancel_right hblock, rfl⟩

/-- A file has a fingerprint exactly if its first certificate block begins with the element of a
    certificate, and it is the digest of that block, of which there is one element and one rest.
    It is the digest of the element exactly if the rest makes no difference to the digest, and
    another file with the same element has the same fingerprint exactly if the two rests make
    none. -/
theorem fingerprint_covers_block (fs : FileSystem) (p : Path) :
    (∀ print, fingerprintAt fs p = .ok print
      ↔ ∃ element behind, CertificateAt fs p element behind
        ∧ Fingerprint.ofBytes (element ++ behind) = print)
    ∧ ∀ element behind, CertificateAt fs p element behind →
      (∀ element' behind', CertificateAt fs p element' behind' → element = element'
        ∧ behind = behind')
      ∧ (fingerprintAt fs p = .ok (Fingerprint.ofBytes element)
        ↔ Digest.sha1 (element ++ behind) = Digest.sha1 element)
      ∧ ∀ other q more, CertificateAt other q element more →
        (fingerprintAt fs p = fingerprintAt other q
          ↔ Digest.sha1 (element ++ behind) = Digest.sha1 (element ++ more)) := by
  refine ⟨fun print => fingerprintAt_eq_ok_iff, ?_⟩
  intro element behind h
  refine ⟨fun _ _ h' => h.unique h', ?_, fun other q more hother => ?_⟩
  · rw [h.fingerprintAt_eq, Except.ok.injEq, Fingerprint.ofBytes_eq_iff]
  · rw [h.fingerprintAt_eq, hother.fingerprintAt_eq, Except.ok.injEq, Fingerprint.ofBytes_eq_iff]

/-! ## A byte behind the certificate -/

/-- A file of one certificate block. -/
def blockFile (block : List UInt8) : FileSystem :=
  .oneFile "ca.pem" (Text.encodeUtf8 (Pem.encode Pem.certificateLabel block).toList)

/-- The first certificate of a file of one block is that block. -/
theorem firstCertificate_block (p : Path) (block : List UInt8) :
    firstCertificate p (Text.encodeUtf8 (Pem.encode Pem.certificateLabel block).toList)
      = .ok block := by
  have hblocks :
      ∀ b ∈ [Pem.Block.mk Pem.certificateLabel block], Pem.PlainLabel b.label.toList := by
    intro b hb
    obtain rfl := List.mem_singleton.mp hb
    exact plainLabel_certificateLabel
  rw [← Pem.blocksText_singleton ⟨Pem.certificateLabel, block⟩, firstCertificate,
    Pem.sectionsOf_blocksText Pem.certificateLabel hblocks]
  rfl

theorem isElement_smallCertificate : ∃ c, IsElement smallCertificate c :=
  ⟨_, X509.isElement_of_read rfl⟩

theorem certificateAt_blockFile (behind : List UInt8) :
    CertificateAt (blockFile (smallCertificate ++ behind)) (Path.ofString "ca.pem") smallCertificate
      behind := by
  obtain ⟨c, helement⟩ := isElement_smallCertificate
  exact ⟨_, c, rfl, firstCertificate_block _ _, helement⟩

/-- One byte behind the certificate changes the digest. -/
theorem sha1_byte_behind :
    Digest.sha1 (smallCertificate ++ [0]) ≠ Digest.sha1 smallCertificate := by decide +kernel

/-- A certificate alone in its block, and one with a byte behind it. -/
theorem fingerprint_covers_block_two_files :
    CertificateAt (blockFile smallCertificate) (Path.ofString "ca.pem") smallCertificate []
    ∧ CertificateAt (blockFile (smallCertificate ++ [0]))
      (Path.ofString "ca.pem") smallCertificate [0]
    ∧ fingerprintAt (blockFile smallCertificate) (Path.ofString "ca.pem")
      = .ok (Fingerprint.ofBytes smallCertificate)
    ∧ fingerprintAt (blockFile smallCertificate) (Path.ofString "ca.pem")
      ≠ fingerprintAt (blockFile (smallCertificate ++ [0])) (Path.ofString "ca.pem") := by
  have halone :
      CertificateAt (blockFile smallCertificate) (Path.ofString "ca.pem") smallCertificate [] := by
    simpa using certificateAt_blockFile []
  have hbyte := certificateAt_blockFile [0]
  obtain ⟨-, hblock⟩ :=
    fingerprint_covers_block (blockFile smallCertificate) (Path.ofString "ca.pem")
  obtain ⟨-, hown, hother⟩ := hblock smallCertificate [] halone
  rw [List.append_nil] at hown hother
  exact ⟨halone, hbyte, hown.mpr rfl, fun heq =>
    sha1_byte_behind ((hother _ _ _ hbyte).mp heq).symm⟩

/-- With a byte behind it, a certificate has another fingerprint than its own. -/
theorem fingerprint_differs_with_byte_behind :
    ∃ c print, IsElement smallCertificate c
      ∧ CertificateAt (blockFile (smallCertificate ++ [0]))
        (Path.ofString "ca.pem") smallCertificate [0]
      ∧ fingerprintAt (blockFile (smallCertificate ++ [0])) (Path.ofString "ca.pem") = .ok print
      ∧ print ≠ Fingerprint.ofBytes smallCertificate := by
  obtain ⟨c, helement⟩ := isElement_smallCertificate
  have hbyte := certificateAt_blockFile [0]
  exact ⟨c, _, helement, hbyte, hbyte.fingerprintAt_eq,
    fun heq => sha1_byte_behind (Fingerprint.ofBytes_eq_iff.mp heq)⟩

end Authority

end ProxyTrust
