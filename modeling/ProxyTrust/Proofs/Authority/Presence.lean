/-
  What an authority that is already there leaves of the files.

  The directories above the certificate are made before anything is looked for, and making one can
  be what lets the path lead somewhere: after `new/..` there is something to find once `new` is
  there.  Then the outcome is that of an authority found, and a directory is left behind.
  `alreadyPresent_untouched_iff` says that this is the only exception: the files are as they were
  exactly if the path led somewhere before, and where it did not, it goes up by a `..` behind a
  missing directory.
-/
import ProxyTrust.Proofs.Authority.Steps
import ProxyTrust.Proofs.Files.Reaching

namespace ProxyTrust.Authority

variable {draw : Draw} {now : Moment} {fs after : FileSystem} {p certPath : Path}
  {keyPath : Option Path}

/-- The directory above a path is made, if its text names one. -/
theorem makeParent_eq_ok (hmake : makeParent fs p = (.ok (), after)) :
    after = fs ∨ ∃ above, p.parent? = some above ∧ above.bytes ≠ []
      ∧ fs.makeDirectories above = (.ok (), after) := by
  rw [makeParent] at hmake
  split at hmake
  · exact .inl (Prod.mk.inj hmake).2.symm
  · next above hparent =>
    split at hmake
    · exact .inl (Prod.mk.inj hmake).2.symm
    · next hne =>
      split at hmake
      · next hmade =>
        obtain ⟨-, rfl⟩ := Prod.mk.inj hmake
        exact .inr ⟨above, hparent, hne, hmade⟩
      · cases (Prod.mk.inj hmake).1

/-- Where directories were made, one of them is new. -/
theorem exists_new_directory (hmake : fs.makeDirectories p = (.ok (), after))
    (hchanged : after ≠ fs) : ∃ place, fs.at? place = none ∧ after.at? place = some .directory := by
  have hfirst := FileSystem.makeDirectories_first fs p
  rw [hmake] at hfirst
  rcases hfirst with heq | ⟨q, made, -, hmade, hgrows⟩
  · exact absurd heq hchanged
  · obtain ⟨place, hnew, hthere, -⟩ := FileSystem.makeDirectory_spec hmade
    have hdirectory := hgrows.directory (FileSystem.isDirectoryAt_iff.mpr hthere)
    exact ⟨place, hnew, FileSystem.isDirectoryAt_iff.mp hdirectory⟩

/-- A path that leads somewhere only since the directory above it was made goes up behind a
    missing one. -/
theorem detour_of_makeParent (htree : fs.IsTree) (hmake : makeParent fs p = (.ok (), after))
    (hbefore : fs.pathExists p = false) (hafter : after.pathExists p = true) :
    Path.dotDot ∈ Path.components p.bytes
      ∧ (∃ above, p.parent? = some above ∧ fs.isDirectory above = false)
      ∧ ∃ place, fs.at? place = none ∧ after.at? place = some .directory := by
  have hchanged : after ≠ fs := by
    rintro rfl
    exact absurd hafter (by rw [hbefore]; exact Bool.false_ne_true)
  rcases makeParent_eq_ok hmake with heq | ⟨above, hparent, hne, hmade⟩
  · exact absurd heq hchanged
  refine ⟨Decidable.byContradiction fun hplain => ?_,
    ⟨above, hparent, Bool.eq_false_iff.mpr fun hthere => ?_⟩, exists_new_directory hmade hchanged⟩
  · -- a path without a `..` leads to what it led to before
    obtain ⟨place, hfind⟩ := FileSystem.pathExists_iff.mp hafter
    have hsame : (fs.makeDirectories above).2.find p = .ok place := by rwa [hmade]
    have hfound := FileSystem.find_of_makeDirectories_parent htree hparent hne hplain hsame
    have hexists := FileSystem.pathExists_iff.mpr ⟨place, hfound⟩
    rw [hbefore] at hexists
    nomatch hexists
  · -- a directory that is there is not made, and nothing changes
    rw [FileSystem.makeDirectories_of_isDirectory hthere] at hmade
    exact hchanged (Prod.mk.inj hmade).2.symm

/-- Where an authority is already there, the files are as they were exactly if the path of the
    certificate led somewhere before.  Otherwise nothing changed but that missing directories
    above it were added, at least one, and the path holds a `..`; so with a path without it the
    files are always as they were. -/
theorem alreadyPresent_untouched_iff (htree : fs.IsTree)
    (hrun : ensureFiles draw now fs certPath keyPath = (.ok .alreadyPresent, after)) :
    (after = fs ↔ fs.pathExists certPath = true)
    ∧ AddsDirectories certPath fs after
    ∧ (after ≠ fs → Path.dotDot ∈ Path.components certPath.bytes
      ∧ (∃ above, certPath.parent? = some above ∧ fs.isDirectory above = false)
      ∧ ∃ place, fs.at? place = none ∧ after.at? place = some .directory) := by
  obtain ⟨hadds, -⟩ := alreadyPresent_leaves hrun
  cases ensureFiles_eq_iff.mp hrun with
  | present hmake hexists =>
    have huntouched : after = fs ↔ fs.pathExists certPath = true := by
      constructor
      · rintro rfl
        exact hexists
      · intro hbefore
        exact (Prod.mk.inj (hmake.symm.trans (makeParent_of_exists hbefore))).2
    refine ⟨huntouched, hadds, fun hchanged => detour_of_makeParent htree hmake ?_ hexists⟩
    exact Bool.eq_false_iff.mpr (hchanged ∘ huntouched.mpr)

/-! ## A certificate behind a missing directory -/

/-- The path of the certificate in the root, by way of a directory that is missing. -/
def roundabout : Path := .ofString "new/../ca.pem"

/-- The place of the missing directory. -/
def newPlace : Location := [Text.encodeUtf8 "new".toList]

/-- The root with an empty file for a certificate. -/
def foundFiles : FileSystem := certificateOnly []

/-- The same root with the directory. -/
def leftFiles : FileSystem := foundFiles.put newPlace .directory

theorem isTree_foundFiles : foundFiles.IsTree := FileSystem.isTree_of_entries (by decide +kernel)

/-- The missing directory is made. -/
theorem makeParent_roundabout : makeParent foundFiles roundabout = (.ok (), leftFiles) := by
  have hparent : roundabout.parent? = some (.ofString "new/..") := by decide +kernel
  have houtcome : (foundFiles.makeDirectories (.ofString "new/..")).1.toOption
      = some () := by decide +kernel
  have hleft : (foundFiles.makeDirectories (.ofString "new/..")).2 = leftFiles := by decide +kernel
  have hmade : foundFiles.makeDirectories (.ofString "new/..") = (.ok (), leftFiles) :=
    Prod.ext (toOption_eq_some_iff.mp houtcome) hleft
  rw [makeParent, hparent]
  dsimp only
  rw [if_neg (by decide), hmade]

/-- What is found behind it is the certificate that was there all along, and the directory stays. -/
theorem ensureFiles_roundabout (draw : Draw) (now : Moment) (keyPath : Option Path) :
    ensureFiles draw now foundFiles roundabout keyPath = (.ok .alreadyPresent, leftFiles) :=
  ensureFiles_eq_iff.mpr (.present makeParent_roundabout (by decide +kernel))

/-- The file is found over a directory that is made for it. -/
theorem alreadyPresent_untouched_iff_roundabout :
    foundFiles.IsTree
    ∧ ensureFiles earlyDraw earlyNow foundFiles roundabout none = (.ok .alreadyPresent, leftFiles)
    ∧ leftFiles ≠ foundFiles
    ∧ foundFiles.pathExists roundabout ≠ true
    ∧ Path.dotDot ∈ Path.components roundabout.bytes
    ∧ AddsDirectories roundabout foundFiles leftFiles := by
  have hrun := ensureFiles_roundabout earlyDraw earlyNow none
  have hchanged : leftFiles ≠ foundFiles := by decide +kernel
  obtain ⟨huntouched, hadds, hdetour⟩ := alreadyPresent_untouched_iff isTree_foundFiles hrun
  exact ⟨isTree_foundFiles, hrun, hchanged, hchanged ∘ huntouched.mpr, (hdetour hchanged).1, hadds⟩

/-- The outcome is that of an authority found, and there is a directory that was not there. -/
theorem directory_made_beside_authority :
    ensureFiles earlyDraw earlyNow foundFiles roundabout none = (.ok .alreadyPresent, leftFiles)
      ∧ foundFiles.at? newPlace = none
      ∧ leftFiles.at? newPlace = some .directory :=
  ⟨ensureFiles_roundabout earlyDraw earlyNow none, by decide +kernel, by decide +kernel⟩

end ProxyTrust.Authority
