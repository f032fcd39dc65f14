/-
  What provisioning does to the files.

  1. **Steps** — what happened where provisioning found an authority, and where it says that it
     generated one: the certificate was written to a path that led to nothing, and after it a key,
     if a path is given for one.  The key may go to the same file.

  2. **Growth** — provisioning takes nothing away, also where it fails half-way.  Where it says
     that it worked, something is at the path of the certificate.  Both follow from one look at
     the branches (`grows_ensureFiles`), since every step adds to the files what it adds, and
     nothing that is added later takes away what a path leads to.

  3. **An authority that is there** — provisioning finds it and changes nothing, the directories
     above included.  A fingerprint that can be told comes from such a file
     (`exists_of_fingerprintAt`), so that no operation that needs one makes another authority.
-/
import ProxyTrust.Authority.Provision
import ProxyTrust.Proofs.Authority.Footprint

namespace ProxyTrust.Authority

open FileSystem (Grows)

variable {draw : Draw} {now : Moment} {fs after : FileSystem} {p certPath : Path}
  {keyPath : Option Path}

/-! ## Steps -/

/-- The bytes of a certificate file. -/
def Material.certificateBytes (m : Material) : List UInt8 := Text.encodeUtf8 m.certificatePem.toList

/-- The bytes of a key file. -/
def Material.keyBytes (m : Material) : List UInt8 := Text.encodeUtf8 m.privateKeyPem.toList

/-- A text is written exactly if its UTF-8 bytes are. -/
theorem writeText_eq_ok_iff {text : String} {mode : Nat} :
    writeText fs p text mode = (.ok (), after)
      ↔ fs.write p (Text.encodeUtf8 text.toList) mode = .ok after := by
  rw [writeText]
  cases fs.write p (Text.encodeUtf8 text.toList) mode with
  | error source => simp
  | ok written => simp

/-- The certificate is written first, then the key. -/
theorem writeMaterial_of_write {written : FileSystem} (m : Material)
    (hwrite : fs.write certPath m.certificateBytes FileSystem.plainMode = .ok written) :
    writeMaterial fs certPath keyPath m = writeKey written keyPath m := by
  rw [writeMaterial, writeText_eq_ok_iff.mpr hwrite]

/-- Once the directory above it is there, a key is one text that is written. -/
theorem writeKey_of_makeParent {made : FileSystem} (m : Material)
    (hparent : makeParent fs p = (.ok (), made)) :
    writeKey fs (some p) m = writeText made p m.privateKeyPem keyMode := by
  rw [writeKey]
  simp only [hparent]

/-- Where an authority was found, the path of the certificate leads to something. -/
theorem exists_of_alreadyPresent
    (h : ensureFiles draw now fs certPath keyPath = (.ok .alreadyPresent, after)) :
    after.pathExists certPath = true := by
  cases ensureFiles_eq_iff.mp h with
  | present _ hexists => exact hexists

/-- The steps of a generation that worked. -/
theorem ensureFiles_eq_generated
    (h : ensureFiles draw now fs certPath keyPath = (.ok .generated, after)) :
    ∃ m made written, makeParent fs certPath = (.ok (), made)
      ∧ made.pathExists certPath = false
      ∧ generate draw now = .ok m
      ∧ made.write certPath m.certificateBytes FileSystem.plainMode = .ok written
      ∧ writeKey written keyPath m = (.ok (), after) := by
  cases ensureFiles_eq_iff.mp h with
  | @generated m made _ hparent hmissing hgenerate hwrite =>
    rw [writeMaterial] at hwrite
    split at hwrite
    · cases hwrite
    · next written hcertificate =>
      exact ⟨m, made, written, hparent, hmissing, hgenerate,
        writeText_eq_ok_iff.mp hcertificate, hwrite⟩

/-! ## Growth -/

/-- Where provisioning says that it worked, there is a certificate. -/
theorem exists_of_ensureFiles (htree : fs.IsTree) {outcome : EnsureOutcome}
    (h : ensureFiles draw now fs certPath keyPath = (.ok outcome, after)) :
    after.pathExists certPath = true := by
  cases outcome with
  | alreadyPresent => exact exists_of_alreadyPresent h
  | generated =>
    obtain ⟨m, made, written, hparent, -, -, hwrite, hkey⟩ := ensureFiles_eq_generated h
    have hmade := grows_makeParent fs certPath
    rw [hparent] at hmade
    obtain ⟨hgrows, hexists⟩ := FileSystem.grows_write (hmade.isTree htree) hwrite
    -- the key may go to the same file, which is there all the same
    have hlater :=
      touches_writeKey (hgrows.isTree (hmade.isTree htree)) (List.Subset.refl keyPath.toList) m
    rw [hkey] at hlater
    exact hlater.grows.pathExists hexists

/-- Provisioning takes nothing away, and where it says that it worked, there is a certificate. -/
theorem grows_ensureFiles (htree : fs.IsTree) (draw : Draw) (now : Moment) (certPath : Path)
    (keyPath : Option Path) :
    Grows fs (ensureFiles draw now fs certPath keyPath).2
      ∧ ∀ outcome, (ensureFiles draw now fs certPath keyPath).1 = .ok outcome →
        (ensureFiles draw now fs certPath keyPath).2.pathExists certPath = true :=
  ⟨(touches_ensureFiles htree draw now certPath keyPath).grows,
    fun _ hok => exists_of_ensureFiles htree (Prod.ext hok rfl)⟩

/-! ## An authority that is there -/

/-- The directory above something that is there is not made again. -/
theorem makeParent_of_exists (hexists : fs.pathExists p = true) :
    makeParent fs p = (.ok (), fs) := by
  obtain ⟨place, hfind⟩ := FileSystem.pathExists_iff.mp hexists
  rw [makeParent]
  split
  · rfl
  · next above hparent =>
    split
    · rfl
    · next hne =>
      have hdirectory := FileSystem.isDirectory_parent hfind hparent hne
      rw [FileSystem.makeDirectories_of_isDirectory hdirectory]

/-- Where something is at the path of the certificate, provisioning changes nothing. -/
theorem ensureFiles_of_exists (hexists : fs.pathExists certPath = true) (draw : Draw) (now : Moment)
    (keyPath : Option Path) :
    ensureFiles draw now fs certPath keyPath = (.ok .alreadyPresent, fs) := by
  rw [ensureFiles, makeParent_of_exists hexists]
  exact if_pos hexists

/-- A certificate whose fingerprint is told is there. -/
theorem exists_of_fingerprintAt {print : Fingerprint} (h : fingerprintAt fs p = .ok print) :
    fs.pathExists p = true := by
  rw [fingerprintAt] at h
  split at h
  · cases h
  · next hread => exact FileSystem.exists_of_read hread

/-- The fingerprint depends on what can be read under the path alone. -/
theorem fingerprintAt_congr {other : FileSystem} (h : other.read p = fs.read p) :
    fingerprintAt other p = fingerprintAt fs p := by
  rw [fingerprintAt, fingerprintAt, h]

/-! ## A draw to run with -/

/-- A draw whose key is quickly written down. -/
def smallDraw : Draw := ⟨⟨33, 3, 7, 3, 11⟩, [], id⟩

/-- The first moment of a year. -/
def newYear : Moment := ⟨⟨2024, 1, 1⟩, 0, 0, 0⟩

end ProxyTrust.Authority
