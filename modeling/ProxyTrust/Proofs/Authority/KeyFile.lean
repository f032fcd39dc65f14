/-
  Who may read the file of a private key.

  1. **Owner only** — the bits that a new key file gets grant nothing to anyone but its owner,
     whatever the mask takes away from them.

  2. **New or written again** — the bits asked for are those of a new file alone.  A file that is
     written again keeps its own, and the certificate, which is written first, does not get in the
     way: `key_ownerOnly_iff_new_or_was` says that the key is its owner's alone exactly if its
     file was new or was the owner's alone before.

  3. **A key file of an earlier authority** — readable by everyone, it stays so with the new key
     in it.
-/
import ProxyTrust.Proofs.Authority.Generation

namespace ProxyTrust.Authority

variable {draw : Draw} {now : Moment} {fs after : FileSystem} {p certPath : Path}

/-! ## Owner only -/

/-- The permission bits of a file that nobody but its owner may read, write or run. -/
def OwnerOnly (mode : Nat) : Prop := mode &&& 0o077 = 0

instance (mode : Nat) : Decidable (OwnerOnly mode) :=
  inferInstanceAs (Decidable (mode &&& 0o077 = 0))

/-- A mask takes bits away and gives none. -/
theorem ownerOnly_and {mode : Nat} (h : OwnerOnly mode) (mask : Nat) :
    OwnerOnly (mode &&& mask) := by
  rw [OwnerOnly, Nat.and_assoc, Nat.and_comm mask, ← Nat.and_assoc, h, Nat.zero_and]

/-- The bits that a key is written with are its owner's alone. -/
theorem ownerOnly_keyMode : OwnerOnly keyMode := by decide

/-! ## New or written again -/

/-- Where an authority was generated and its key did not go to the certificate's own file, the
    file of the key is a new one, with the bits of `keyMode` that the mask leaves, or it was there
    and has the bits that it had.  Hence it is its owner's alone exactly if it was not there or
    was its owner's alone before. -/
theorem key_ownerOnly_iff_new_or_was (htree : fs.IsTree)
    (h : ensureFiles draw now fs certPath (some p) = (.ok .generated, after))
    (happart : ¬ SharesFile after certPath (some p)) :
    ∃ m place mode, generate draw now = .ok m
      ∧ after.find p = .ok place ∧ after.at? place = some (.file m.keyBytes mode)
      ∧ ((fs.at? place = none ∧ mode = keyMode &&& (0o777 ^^^ (fs.umask &&& 0o777)))
        ∨ ∃ old, fs.at? place = some (.file old mode))
      ∧ (OwnerOnly mode
        ↔ fs.at? place = none ∨ ∃ old kept, fs.at? place = some (.file old kept)
          ∧ OwnerOnly kept) := by
  obtain ⟨m, made, written, hparent, -, hgenerate, hwrite, hkey⟩ := ensureFiles_eq_generated h
  obtain ⟨certPlace, hcertificate, -⟩ := placed_write htree hparent hwrite
  obtain ⟨roomed, hroom, hkeyWrite⟩ := writeKey_eq_ok hkey
  obtain ⟨place, hplaced, -⟩ := placed_write (hcertificate.grows.isTree htree) hroom hkeyWrite
  have hne : place ≠ certPlace := by
    rintro rfl
    exact happart ⟨p, place, rfl, hplaced.grows.find hcertificate.find, hplaced.find⟩
  -- what the key found at its place was there before the certificate was written
  have hat : written.at? place = fs.at? place :=
    hcertificate.at?_eq hne (FileSystem.ne_directory_of_writable hplaced.writable)
  have hholds : after.at? place = some (.file m.keyBytes (fs.writtenMode place keyMode)) := by
    rw [hplaced.holds, FileSystem.writtenMode_congr hat hcertificate.umask_eq]
  have hwritable := hplaced.writable
  rw [hat] at hwritable
  refine ⟨m, place, _, hgenerate, hplaced.find, hholds, ?_⟩
  rcases hwritable with hfree | ⟨old, kept, hfile⟩
  · have hmode : fs.writtenMode place keyMode = keyMode &&& (0o777 ^^^ (fs.umask &&& 0o777)) := by
      rw [FileSystem.writtenMode, hfree]
    refine ⟨.inl ⟨hfree, hmode⟩, iff_of_true ?_ (.inl hfree)⟩
    rw [hmode]
    exact ownerOnly_and ownerOnly_keyMode _
  · have hmode : fs.writtenMode place keyMode = kept := by rw [FileSystem.writtenMode, hfile]
    rw [hmode]
    refine ⟨.inr ⟨old, hfile⟩, fun hkept => .inr ⟨old, kept, hfile, hkept⟩, ?_⟩
    rintro (hfree | ⟨_, _, hsame, hwas⟩)
    · rw [hfree] at hfile
      cases hfile
    · obtain ⟨-, rfl⟩ := Entry.file.inj (Option.some.inj (hfile.symm.trans hsame))
      exact hwas

/-! ## A key file of an earlier authority -/

/-- The root with a key file that no certificate belongs to. -/
def leftoverKey (kept : Nat) : FileSystem :=
  ⟨[(Path.components rootKey.bytes, .file [] kept)], [], 0o022⟩

/-- The root with a certificate next to that file. -/
def besideLeftover (content : List UInt8) (kept : Nat) : FileSystem :=
  ⟨[(Path.components rootCertificate.bytes, .file content 0o644),
    (Path.components rootKey.bytes, .file [] kept)], [], 0o022⟩

/-- The root with a certificate, and with its key in a file that was there. -/
def reusedKey (content key : List UInt8) (kept : Nat) : FileSystem :=
  ⟨[(Path.components rootKey.bytes, .file key kept),
    (Path.components rootCertificate.bytes, .file content 0o644)], [], 0o022⟩

theorem isTree_leftoverKey (kept : Nat) : (leftoverKey kept).IsTree := by
  refine FileSystem.isTree_of_entries fun e he => ?_
  rw [List.mem_singleton.mp he]
  rfl

/-- The certificate is written beside the key that was left over. -/
theorem write_leftoverKey (content : List UInt8) (kept : Nat) :
    (leftoverKey kept).write rootCertificate content FileSystem.plainMode
      = .ok (besideLeftover content kept) := by
  have hfree : (leftoverKey kept).at? (Path.components rootCertificate.bytes) = none := rfl
  refine FileSystem.write_eq_ok_iff.mpr ⟨Path.components rootCertificate.bytes, rfl, ?_⟩
  rw [FileSystem.putFile, hfree]
  show (leftoverKey kept).put _
      (.file content (FileSystem.plainMode &&& (0o777 ^^^ (0o022 &&& 0o777)))) = _
  rfl

theorem makeParent_besideLeftover (content : List UInt8) (kept : Nat) :
    makeParent (besideLeftover content kept) rootKey = (.ok (), besideLeftover content kept) := rfl

/-- The key goes into the file that is there, which keeps its bits. -/
theorem write_besideLeftover (content key : List UInt8) (kept : Nat) :
    (besideLeftover content kept).write rootKey key keyMode = .ok (reusedKey content key kept) :=
      rfl

/-- Provisioning next to a leftover key file leaves that file its bits. -/
theorem ensureFiles_leftoverKey {m : Material} (hm : generate draw now = .ok m) (kept : Nat) :
    ensureFiles draw now (leftoverKey kept) rootCertificate (some rootKey)
      = (.ok .generated, reusedKey m.certificateBytes m.keyBytes kept) := by
  have hparent : makeParent (leftoverKey kept) rootCertificate = (.ok (), leftoverKey kept) := rfl
  have hmissing : (leftoverKey kept).pathExists rootCertificate = false := rfl
  refine ensureFiles_eq_iff.mpr (.generated hparent hmissing hm ?_)
  rw [writeMaterial_of_write m (write_leftoverKey _ _),
    writeKey_of_makeParent m (makeParent_besideLeftover _ _)]
  exact writeText_eq_ok_iff.mpr (write_besideLeftover _ _ _)

theorem find_reusedKey (content key : List UInt8) (kept : Nat) :
    (reusedKey content key kept).find rootKey = .ok (Path.components rootKey.bytes) := rfl

theorem not_sharesFile_reusedKey (content key : List UInt8) (kept : Nat) :
    ¬ SharesFile (reusedKey content key kept) rootCertificate (some rootKey) := by
  have hcertificate : (reusedKey content key kept).find rootCertificate
      = .ok (Path.components rootCertificate.bytes) := rfl
  exact not_sharesFile_of_find hcertificate (find_reusedKey content key kept) (by decide)

/-- The key of an earlier authority, kept from all others, stays its owner's alone. -/
theorem key_ownerOnly_iff_new_or_was_leftover :
    (leftoverKey 0o600).IsTree
    ∧ ∃ m after, generate earlyDraw earlyNow = .ok m
      ∧ ensureFiles earlyDraw earlyNow (leftoverKey 0o600) rootCertificate (some rootKey)
        = (.ok .generated, after)
      ∧ ¬ SharesFile after rootCertificate (some rootKey)
      ∧ ∃ place mode, after.find rootKey = .ok place
        ∧ after.at? place = some (.file m.keyBytes mode) ∧ OwnerOnly mode := by
  obtain ⟨m, hm, -⟩ := early_generate
  have hgenerated := ensureFiles_leftoverKey hm 0o600
  have happart := not_sharesFile_reusedKey m.certificateBytes m.keyBytes 0o600
  obtain ⟨made, place, mode, hmade, hfind, hat, -, howner⟩ :=
    key_ownerOnly_iff_new_or_was (isTree_leftoverKey 0o600) hgenerated happart
  obtain rfl : made = m := Except.ok.inj (hmade.symm.trans hm)
  obtain rfl : place = Path.components rootKey.bytes :=
    Except.ok.inj (hfind.symm.trans (find_reusedKey made.certificateBytes made.keyBytes 0o600))
  exact ⟨isTree_leftoverKey 0o600, made, _, hm, hgenerated, happart, _, mode, hfind, hat,
    howner.mpr (.inr ⟨[], 0o600, rfl, by decide⟩)⟩

/-- Where the key file of an earlier authority could be read by everyone, so can the new key in
    it. -/
theorem key_readable_in_leftover_file :
    ∃ m after, generate earlyDraw earlyNow = .ok m
      ∧ ensureFiles earlyDraw earlyNow (leftoverKey 0o644) rootCertificate (some rootKey)
        = (.ok .generated, after)
      ∧ ¬ SharesFile after rootCertificate (some rootKey)
      ∧ ∃ place, after.find rootKey = .ok place
        ∧ after.at? place = some (.file m.keyBytes 0o644) ∧ ¬ OwnerOnly 0o644 := by
  obtain ⟨m, hm, -⟩ := early_generate
  have happart := not_sharesFile_reusedKey m.certificateBytes m.keyBytes 0o644
  have hfind := find_reusedKey m.certificateBytes m.keyBytes 0o644
  exact ⟨m, _, hm, ensureFiles_leftoverKey hm 0o644, happart, _, hfind, rfl, by decide⟩

end ProxyTrust.Authority
