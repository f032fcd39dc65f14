/-
  What the files of an authority hold right after it was generated.

  1. **Two writes** — `Placed` says what is there once a file was written with the directories
     above it.  The certificate goes to a place that was free, and the key after it to wherever
     its path leads then.

  2. **One file for both** — nothing keeps the two paths apart.  Where both lead to one file in
     the end, the key takes the place of the certificate, and provisioning still says that it
     worked.  `generated_survives_unless_shared`: in all other cases both files hold what they are
     for.
-/
import ProxyTrust.Proofs.Authority.Material
import ProxyTrust.Proofs.Authority.Provision

namespace ProxyTrust.Authority

open FileSystem (Grows emptyRoot isTree_emptyRoot)

variable {draw : Draw} {now : Moment} {m : Material} {fs after : FileSystem}
  {p certPath : Path} {keyPath : Option Path} {place : Location}

/-! ## Two writes -/

/-- A file was written under a path: it is where the path leads now, and nothing else changed but
    that directories were added. -/
structure Placed (fs after : FileSystem) (p : Path) (content : List UInt8) (asked : Nat)
    (place : Location) : Prop where
  grows : Grows fs after
  umask_eq : after.umask = fs.umask
  find : after.find p = .ok place
  holds : after.at? place = some (.file content (fs.writtenMode place asked))
  /-- Nothing or a file was there before. -/
  writable : fs.at? place = none ∨ ∃ old kept, fs.at? place = some (.file old kept)
  others : ∀ other, other ≠ place →
    after.at? other = fs.at? other ∨ (fs.at? other = none ∧ after.at? other = some .directory)

variable {content : List UInt8} {asked : Nat} {other : Location}

/-- What stood elsewhere stays as it is. -/
theorem Placed.kept (h : Placed fs after p content asked place) (hother : other ≠ place)
    {entry : Entry} (hat : fs.at? other = some entry) : after.at? other = some entry := by
  rcases h.others other hother with heq | ⟨hfree, -⟩
  · rw [heq, hat]
  · rw [hat] at hfree
    cases hfree

/-- What is no directory elsewhere was there before. -/
theorem Placed.at?_eq (h : Placed fs after p content asked place) (hother : other ≠ place)
    (hat : after.at? other ≠ some .directory) : after.at? other = fs.at? other := by
  rcases h.others other hother with heq | ⟨-, hdirectory⟩
  · exact heq
  · exact absurd hdirectory hat

/-- A file written under a path once the directories above it are made.  Where the path led to
    nothing then, the file is a new one. -/
theorem placed_write (htree : fs.IsTree) {made : FileSystem}
    (hparent : makeParent fs p = (.ok (), made)) (hwrite : made.write p content asked = .ok after) :
    ∃ place, Placed fs after p content asked place
      ∧ (made.pathExists p = false → fs.at? place = none) := by
  have hfurnished := furnished_makeParent fs p
  have hgrows := grows_makeParent fs p
  have humask := umask_makeParent fs p
  rw [hparent] at hfurnished hgrows humask
  obtain ⟨place, hplace, rfl⟩ := FileSystem.write_eq_ok_iff.mp hwrite
  obtain ⟨hgains, hfind, hstanding⟩ := (hgrows.isTree htree).putFile hplace content asked
  -- no directory was at the place, and so what was there was there before the directories were made
  have hat : made.at? place = fs.at? place :=
    hfurnished.at?_eq (FileSystem.ne_directory_of_writable hgains.writable)
  refine ⟨place, ⟨hgrows.trans (hgains.grows hstanding), ?_, hfind, ?_, hat ▸ hgains.writable, ?_⟩,
    ?_⟩
  · rw [FileSystem.umask_putFile, humask]
  · rw [FileSystem.at?_putFile made hgains.ne_root, FileSystem.writtenMode_congr hat humask]
  · intro other hother
    rw [hgains.others other hother]
    exact hfurnished other
  · intro hmissing
    rw [← hat]
    refine hgains.writable.resolve_right ?_
    -- a file that is overwritten would have been found
    rintro ⟨old, kept, hold⟩
    have hexists := FileSystem.pathExists_iff.mpr ⟨place, (hgains.symm hold).find hfind⟩
    rw [hmissing] at hexists
    cases hexists

/-- The key is written once the directories above its path are made. -/
theorem writeKey_eq_ok (hkey : writeKey fs (some p) m = (.ok (), after)) :
    ∃ made, makeParent fs p = (.ok (), made) ∧ made.write p m.keyBytes keyMode = .ok after := by
  rw [writeKey] at hkey
  split at hkey
  · cases hkey
  · next made hparent => exact ⟨made, hparent, writeText_eq_ok_iff.mp hkey⟩

/-! ## One file for both -/

/-- The path of the key leads to the file that the path of the certificate leads to. -/
def SharesFile (fs : FileSystem) (certPath : Path) (keyPath : Option Path) : Prop :=
  ∃ p place, keyPath = some p ∧ fs.find certPath = .ok place ∧ fs.find p = .ok place

/-- Two paths that lead to two places. -/
theorem not_sharesFile_of_find {keyPlace : Location} (hcertificate : fs.find certPath = .ok place)
    (hkey : fs.find p = .ok keyPlace) (hne : place ≠ keyPlace) :
      ¬ SharesFile fs certPath (some p) := by
  rintro ⟨given, shared, hgiven, hfound, hshared⟩
  obtain rfl := Option.some.inj hgiven
  obtain rfl : shared = place := Except.ok.inj (hfound.symm.trans hcertificate)
  exact hne (Except.ok.inj (hshared.symm.trans hkey))

theorem plainLabel_rsaPrivateKeyLabel : Pem.PlainLabel Pem.rsaPrivateKeyLabel.toList :=
  ⟨by decide, by decide, by decide⟩

/-- A file of a generated key holds no certificate. -/
theorem fingerprintAt_key (hgenerate : generate draw now = .ok m)
    (hread : fs.read p = .ok m.keyBytes) :
    fingerprintAt fs p = .error (.crypto (.noCertificate p)) := by
  obtain ⟨first, last, h⟩ := generate_eq_ok hgenerate
  rw [Material.keyBytes, h.privateKeyPem] at hread
  rw [fingerprintAt_block plainLabel_rsaPrivateKeyLabel hread]
  exact if_neg (by decide)

/-- Where an authority was generated, its certificate went to a file that was not there before,
    and a key that was asked for is read under its path.  The certificate is read under its own
    path, with its own fingerprint, unless the path of the key leads to the same file in the end:
    then the key is read there, and no certificate is found. -/
theorem generated_survives_unless_shared (htree : fs.IsTree)
    (h : ensureFiles draw now fs certPath keyPath = (.ok .generated, after)) :
    ∃ m place, generate draw now = .ok m
      ∧ fs.at? place = none ∧ after.find certPath = .ok place
      ∧ (∀ p, keyPath = some p → after.read p = .ok m.keyBytes)
      ∧ (¬ SharesFile after certPath keyPath →
        after.read certPath = .ok m.certificateBytes
        ∧ (m.certificate.length < Der.lengthBound →
          fingerprintAt after certPath = .ok (Fingerprint.ofBytes m.certificate)))
      ∧ (SharesFile after certPath keyPath →
        after.read certPath = .ok m.keyBytes
        ∧ fingerprintAt after certPath = .error (.crypto (.noCertificate certPath))) := by
  obtain ⟨m, made, written, hparent, hmissing, hgenerate, hwrite, hkey⟩ :=
    ensureFiles_eq_generated h
  obtain ⟨place, hcertificate, hfree⟩ := placed_write htree hparent hwrite
  obtain ⟨first, last, hgenerated⟩ := generate_eq_ok hgenerate
  have hreadBack (hread : after.read certPath = .ok m.certificateBytes) :
      after.read certPath = .ok m.certificateBytes
      ∧ (m.certificate.length < Der.lengthBound →
        fingerprintAt after certPath = .ok (Fingerprint.ofBytes m.certificate)) :=
    ⟨hread, fun hlength => hgenerated.fingerprintAt hlength hread⟩
  cases keyPath with
  | none =>
    obtain ⟨-, rfl⟩ := Prod.mk.inj hkey
    refine ⟨m, place, hgenerate, hfree hmissing, hcertificate.find, (fun _ hp => nomatch hp),
      fun _ => hreadBack (FileSystem.read_of_find hcertificate.find hcertificate.holds), ?_⟩
    rintro ⟨p, _, hp, -⟩
    cases hp
  | some p =>
    obtain ⟨roomed, hroom, hkeyWrite⟩ := writeKey_eq_ok hkey
    obtain ⟨keyPlace, hkeyPlaced, -⟩ :=
      placed_write (hcertificate.grows.isTree htree) hroom hkeyWrite
    have hlater : after.find certPath = .ok place := hkeyPlaced.grows.find hcertificate.find
    refine ⟨m, place, hgenerate, hfree hmissing, hlater, ?_, fun happart => hreadBack ?_, ?_⟩
    · intro given hgiven
      obtain rfl := Option.some.inj hgiven
      exact FileSystem.read_of_find hkeyPlaced.find hkeyPlaced.holds
    · -- the key went elsewhere, or both paths would lead to its place
      refine FileSystem.read_of_find hlater (hkeyPlaced.kept ?_ hcertificate.holds)
      rintro rfl
      exact happart ⟨p, place, rfl, hlater, hkeyPlaced.find⟩
    · rintro ⟨given, shared, hgiven, hcert, hshared⟩
      obtain rfl := Option.some.inj hgiven
      obtain rfl : shared = place := Except.ok.inj (hcert.symm.trans hlater)
      obtain rfl : keyPlace = shared := Except.ok.inj (hkeyPlaced.find.symm.trans hshared)
      have hread : after.read certPath = .ok m.keyBytes :=
        FileSystem.read_of_find hlater hkeyPlaced.holds
      exact ⟨hread, fingerprintAt_key hgenerate hread⟩

/-! ## Two paths, and one for both -/

/-- A path for certificates. -/
def rootCertificate : Path := .ofString "ca.pem"

/-- A path for keys. -/
def rootKey : Path := .ofString "ca.key"

/-- The root with a certificate. -/
def certificateOnly (content : List UInt8) : FileSystem := .oneFile "ca.pem" content

/-- The root with two files. -/
def twoFiles (content key : List UInt8) : FileSystem :=
  ⟨[(Path.components rootKey.bytes, .file key 0o600),
    (Path.components rootCertificate.bytes, .file content 0o644)], [], 0o022⟩

theorem write_certificateOnly (content : List UInt8) :
    emptyRoot.write rootCertificate content FileSystem.plainMode = .ok (certificateOnly content) :=
      rfl

/-- The key written beside the certificate. -/
theorem write_twoFiles (content key : List UInt8) :
    (certificateOnly content).write rootKey key keyMode = .ok (twoFiles content key) := by
  have hfree : (certificateOnly content).at? (Path.components rootKey.bytes) = none := rfl
  refine FileSystem.write_eq_ok_iff.mpr ⟨Path.components rootKey.bytes, rfl, ?_⟩
  rw [FileSystem.putFile, hfree]
  show (certificateOnly content).put _ (.file key (keyMode &&& (0o777 ^^^ (0o022 &&& 0o777)))) = _
  rfl

/-- The key written to the path of the certificate takes its place. -/
theorem write_sameFile (content key : List UInt8) :
    (certificateOnly content).write rootCertificate key keyMode = .ok (certificateOnly key) := rfl

/-- Provisioning in an empty root, whose directory needs not to be made. -/
theorem ensureFiles_emptyRoot (hm : generate draw now = .ok m)
    (hparent : makeParent (certificateOnly m.certificateBytes) p
      = (.ok (), certificateOnly m.certificateBytes))
    (hwrite : (certificateOnly m.certificateBytes).write p m.keyBytes keyMode = .ok after) :
    ensureFiles draw now emptyRoot rootCertificate (some p) = (.ok .generated, after) := by
  have hkey : writeText (certificateOnly m.certificateBytes) p m.privateKeyPem keyMode
      = (.ok (), after) :=
    writeText_eq_ok_iff.mpr hwrite
  refine ensureFiles_eq_iff.mpr (.generated rfl (by decide) hm ?_)
  rw [writeMaterial_of_write m (write_certificateOnly m.certificateBytes),
    writeKey_of_makeParent m hparent]
  exact hkey

theorem not_sharesFile_twoFiles (content key : List UInt8) :
    ¬ SharesFile (twoFiles content key) rootCertificate (some rootKey) := by
  have hcertificate : (twoFiles content key).find rootCertificate
      = .ok (Path.components rootCertificate.bytes) := rfl
  have hkey : (twoFiles content key).find rootKey = .ok (Path.components rootKey.bytes) := rfl
  exact not_sharesFile_of_find hcertificate hkey (by decide)

/-- Two paths that lead to two files, in an empty root: both files hold what they are for. -/
theorem generated_survives_unless_shared_apart :
    emptyRoot.IsTree
    ∧ ∃ m after, generate earlyDraw earlyNow = .ok m
      ∧ ensureFiles earlyDraw earlyNow emptyRoot rootCertificate (some rootKey)
        = (.ok .generated, after)
      ∧ ¬ SharesFile after rootCertificate (some rootKey)
      ∧ after.read rootCertificate = .ok m.certificateBytes
      ∧ after.read rootKey = .ok m.keyBytes := by
  obtain ⟨m, hm, -⟩ := early_generate
  have hgenerated := ensureFiles_emptyRoot hm rfl (write_twoFiles m.certificateBytes m.keyBytes)
  have happart := not_sharesFile_twoFiles m.certificateBytes m.keyBytes
  obtain ⟨made, -, hmade, -, -, hkey, hkept, -⟩ :=
    generated_survives_unless_shared isTree_emptyRoot hgenerated
  obtain rfl : made = m := Except.ok.inj (hmade.symm.trans hm)
  exact ⟨isTree_emptyRoot, made, _, hm, hgenerated, happart, (hkept happart).1, hkey rootKey rfl⟩

/-- With one path for both, provisioning says that it generated an authority, and the key is read
    at the path of the certificate. -/
theorem certificate_lost_at_shared_path :
    ∃ m after, generate earlyDraw earlyNow = .ok m
      ∧ ensureFiles earlyDraw earlyNow emptyRoot rootCertificate (some rootCertificate)
        = (.ok .generated, after)
      ∧ after.read rootCertificate = .ok m.keyBytes
      ∧ after.read rootCertificate ≠ .ok m.certificateBytes
      ∧ fingerprintAt after rootCertificate ≠ .ok (Fingerprint.ofBytes m.certificate) := by
  obtain ⟨m, hm, hlength⟩ := early_generate
  have hgenerated := ensureFiles_emptyRoot hm rfl (write_sameFile m.certificateBytes m.keyBytes)
  have hread (content : List UInt8) :
      (certificateOnly content).read rootCertificate = .ok content := rfl
  have hnone := fingerprintAt_key hm (hread m.keyBytes)
  refine ⟨m, _, hm, hgenerated, hread m.keyBytes, fun hcertificate => ?_, ?_⟩
  · obtain ⟨first, last, h⟩ := generate_eq_ok hm
    rw [h.fingerprintAt hlength hcertificate] at hnone
    cases hnone
  · rw [hnone]
    exact fun heq => nomatch heq

end ProxyTrust.Authority
