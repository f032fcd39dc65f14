/-
  The certificate that a file of blocks is known by.

  1. **Two readers** — the one of single blocks searches its text for two markers, and the one of
     sections goes through the file line by line, with another base64 decoder.  That they agree on
     a row of blocks is shown for each of them alone (`Pem.decode_blocksText`,
     `Pem.sectionsOf_blocksText`): both come down to the blocks with the label, of which the first
     is taken.

  2. **Fingerprints** — the fingerprint of a file of blocks is that of its first certificate, or
     there is none (`fingerprintAt_blocksText`).  No fault of a certificate is taken for a missing
     one (`fingerprintOfCertificate_ne_noCertificate`), so that the fault tells the two apart.

  3. **Agreement** — `readers_agree_on_blocks` puts the two together: both take the first block of
     a label, so that the fingerprint of the file is that of its first certificate, whatever
     stands before and after it.
-/
import ProxyTrust.Authority.Provision
import ProxyTrust.Proofs.Files.Growth
import ProxyTrust.Proofs.Pem.Sections

namespace ProxyTrust.Authority

open Pem (Block PlainLabel blocksText certificateLabel)

variable {blocks : List Block} {fs : FileSystem} {p : Path} {der : List UInt8}

/-- The fingerprint of bytes, if they are a certificate. -/
def fingerprintOfCertificate (path : Path) (der : List UInt8) : Except Fault Fingerprint :=
  match X509.Certificate.read der with
  | .error fault => .error (.crypto (.notCertificate path fault))
  | .ok _ => .ok (Fingerprint.ofBytes der)

/-- Bytes have their digest as a fingerprint exactly if a certificate is read from them. -/
theorem fingerprintOfCertificate_eq_ok_iff :
    fingerprintOfCertificate p der = .ok (Fingerprint.ofBytes der)
      ↔ ∃ certificate, X509.Certificate.read der = .ok certificate := by
  rw [fingerprintOfCertificate]
  cases X509.Certificate.read der with
  | error fault => simp
  | ok certificate => simp

/-- Bytes that are there are never told as a missing certificate. -/
theorem fingerprintOfCertificate_ne_noCertificate :
    fingerprintOfCertificate p der ≠ .error (.crypto (.noCertificate p)) := by
  rw [fingerprintOfCertificate]
  cases X509.Certificate.read der with
  | error fault => simp
  | ok certificate => simp

theorem plainLabel_certificateLabel : PlainLabel certificateLabel.toList :=
  ⟨by decide, by decide, by decide⟩

/-- The fingerprint of a file of blocks is that of the first certificate. -/
theorem fingerprintAt_blocksText (hblocks : ∀ b ∈ blocks, PlainLabel b.label.toList)
    (hread : fs.read p = .ok (Text.encodeUtf8 (blocksText blocks).toList)) :
    fingerprintAt fs p
      = match blocks.find? (·.label = certificateLabel) with
        | some b => fingerprintOfCertificate p b.data
        | none => .error (.crypto (.noCertificate p)) := by
  rw [fingerprintAt, hread]
  simp only
  rw [fingerprintOf, firstCertificate, Pem.sectionsOf_blocksText certificateLabel hblocks,
    ← List.head?_filter]
  cases blocks.filter (·.label = certificateLabel) with
  | nil => rfl
  | cons first others => rfl

/-- The fingerprint of a file of one block is that of the block, if it is labelled as a
    certificate. -/
theorem fingerprintAt_block {label : String} (hlabel : PlainLabel label.toList)
    (hread : fs.read p = .ok (Text.encodeUtf8 (Pem.encode label der).toList)) :
    fingerprintAt fs p
      = if label = certificateLabel then fingerprintOfCertificate p der
        else .error (.crypto (.noCertificate p)) := by
  have hblocks : ∀ b ∈ [Block.mk label der], PlainLabel b.label.toList := by
    intro b hb
    obtain rfl := List.mem_singleton.mp hb
    exact hlabel
  rw [← Pem.blocksText_singleton ⟨label, der⟩] at hread
  rw [fingerprintAt_blocksText hblocks hread]
  by_cases hcertificate : label = certificateLabel
  · simp [hcertificate]
  · simp [hcertificate]

/-- A file of blocks that holds a block of a label, by the block that reading finds. -/
theorem decode_blocksText_eq_ok_iff {label : String} (hlabel : PlainLabel label.toList)
    (hblocks : ∀ b ∈ blocks, PlainLabel b.label.toList) :
    Pem.decode label (blocksText blocks) = .ok der
      ↔ ∃ b, blocks.find? (·.label = label) = some b ∧ b.data = der := by
  rw [Pem.decode_blocksText hlabel hblocks]
  cases blocks.find? (·.label = label) with
  | none => simp
  | some b => simp

/-- Both readers take the first block of a label, and the fingerprint of a file of blocks is that
    of its first certificate. -/
theorem readers_agree_on_blocks {label : String} {blocks : List Block}
    (hlabel : PlainLabel label.toList) (hblocks : ∀ b ∈ blocks, PlainLabel b.label.toList) :
    (Pem.decode label (blocksText blocks)
      = match blocks.find? (·.label = label) with
        | some b => .ok b.data
        | none => .error (.missing label))
    ∧ ∀ fs p, FileSystem.read fs p = .ok (Text.encodeUtf8 (blocksText blocks).toList) →
      (fingerprintAt fs p = .error (.crypto (.noCertificate p))
        ↔ ∀ b ∈ blocks, b.label ≠ certificateLabel)
      ∧ ∀ der, Pem.decode certificateLabel (blocksText blocks) = .ok der →
        fingerprintAt fs p = fingerprintOfCertificate p der
        ∧ (fingerprintAt fs p = .ok (Fingerprint.ofBytes der)
          ↔ ∃ certificate, X509.Certificate.read der = .ok certificate) := by
  refine ⟨Pem.decode_blocksText hlabel hblocks, ?_⟩
  intro fs p hread
  have hfingerprint := fingerprintAt_blocksText hblocks hread
  constructor
  · -- no certificate is told exactly if no block has the label, since every block found is told
    -- as itself
    rw [hfingerprint]
    have hnone : blocks.find? (·.label = certificateLabel) = none
        ↔ ∀ b ∈ blocks, b.label ≠ certificateLabel := by
      simp [List.find?_eq_none]
    rw [← hnone]
    cases blocks.find? (·.label = certificateLabel) with
    | none => simp
    | some b => simp [fingerprintOfCertificate_ne_noCertificate]
  · -- what the one reader finds is the block that the other one looks into
    intro der hder
    obtain ⟨b, hfound, rfl⟩ :=
      (decode_blocksText_eq_ok_iff plainLabel_certificateLabel hblocks).mp hder
    have hfirst : fingerprintAt fs p = fingerprintOfCertificate p b.data := by
      rw [hfingerprint, hfound]
    exact ⟨hfirst, hfirst ▸ fingerprintOfCertificate_eq_ok_iff⟩

/-! ## A file with keys around its certificate -/

/-- The bytes of a certificate with empty names. -/
def smallCertificate : List UInt8 :=
  [0x30, 0x3F, 0x30, 0x35, 0x02, 0x01, 0x01, 0x30, 0x02, 0x06, 0x00, 0x30, 0x00, 0x30, 0x1E]
    ++ [0x17, 0x0D] ++ Text.encodeUtf8 "240101000000Z".toList
    ++ [0x17, 0x0D] ++ Text.encodeUtf8 "340101000000Z".toList
    ++ [0x30, 0x00, 0x30, 0x08, 0x30, 0x02, 0x06, 0x00, 0x03, 0x02, 0x00, 0x01]
    ++ [0x30, 0x02, 0x06, 0x00, 0x03, 0x02, 0x00, 0x01]

/-- A certificate among keys, and something else under its label after it. -/
def mixedBlocks : List Block :=
  [⟨"RSA PRIVATE KEY", [1]⟩, ⟨certificateLabel, smallCertificate⟩, ⟨"PRIVATE KEY", [2]⟩,
    ⟨certificateLabel, [3]⟩]

/-- A file of them. -/
def mixedFiles : FileSystem :=
  .oneFile "ca.pem" (Text.encodeUtf8 (blocksText mixedBlocks).toList)

theorem plainLabel_mixedBlocks : ∀ b ∈ mixedBlocks, PlainLabel b.label.toList := by
  intro b hb
  simp only [mixedBlocks, List.mem_cons, List.not_mem_nil, or_false] at hb
  rcases hb with rfl | rfl | rfl | rfl
  · exact ⟨by decide, by decide, by decide⟩
  · exact plainLabel_certificateLabel
  · exact ⟨by decide, by decide, by decide⟩
  · exact plainLabel_certificateLabel

/-- A file with keys around its certificate: both readers go past them, and past what comes after
    the first certificate. -/
theorem readers_agree_on_blocks_mixed :
    Pem.decode "PRIVATE KEY" (blocksText mixedBlocks) = .ok [2]
    ∧ mixedFiles.read (Path.ofString "ca.pem")
      = .ok (Text.encodeUtf8 (blocksText mixedBlocks).toList)
    ∧ fingerprintAt mixedFiles (Path.ofString "ca.pem")
      = .ok (Fingerprint.ofBytes smallCertificate) := by
  have hread : mixedFiles.read (Path.ofString "ca.pem")
      = .ok (Text.encodeUtf8 (blocksText mixedBlocks).toList) := rfl
  have hlabel : PlainLabel "PRIVATE KEY".toList := ⟨by decide, by decide, by decide⟩
  obtain ⟨hkey, -⟩ := readers_agree_on_blocks hlabel plainLabel_mixedBlocks
  obtain ⟨hdecode, hfile⟩ :=
    readers_agree_on_blocks plainLabel_certificateLabel plainLabel_mixedBlocks
  have haccepted : ∃ certificate, X509.Certificate.read smallCertificate = .ok certificate :=
    ⟨_, rfl⟩
  exact ⟨hkey, hread, ((hfile _ _ hread).2 smallCertificate hdecode).2.mpr haccepted⟩

end ProxyTrust.Authority
