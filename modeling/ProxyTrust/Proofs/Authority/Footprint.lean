/-
  How provisioning ends, and which places it may have changed.

  1. **Endings** — `Ended` lists the five ways in which provisioning ends, with what each of them
     leaves.  It says the same as the function (`ensureFiles_eq_iff`), but a proof by cases over
     it names the case and the facts that lead there, and never unfolds the branches again.

  2. **Footprint** — making the directory above a file adds directories and nothing else.
     Provisioning as a whole touches the certificate file, the key file and missing directories
     above them, also where it fails half-way: each of its steps does, and what touches the same
     files can be put together (`Touches.trans`).
-/
import ProxyTrust.Authority.Provision
import ProxyTrust.Proofs.Files.Footprint

namespace ProxyTrust.Authority

open FileSystem (Furnished Grows Touches)

variable {draw : Draw} {now : Moment} {fs after : FileSystem} {p certPath : Path}
  {keyPath : Option Path} {files : List Path}

/-! ## Endings -/

/-- How provisioning ends, and what it leaves. -/
inductive Ended (draw : Draw) (now : Moment) (fs : FileSystem) (certPath : Path)
    (keyPath : Option Path) :
    Except Stop EnsureOutcome → FileSystem → Prop
  | noDirectory {fault : Fault} {after : FileSystem}
      (hparent : makeParent fs certPath = (.error fault, after)) :
      Ended draw now fs certPath keyPath (.error (.fault fault)) after
  | present {after : FileSystem} (hparent : makeParent fs certPath = (.ok (), after))
      (hexists : after.pathExists certPath = true) :
      Ended draw now fs certPath keyPath (.ok .alreadyPresent) after
  | crashed {crash : Crash} {after : FileSystem}
      (hparent : makeParent fs certPath = (.ok (), after))
      (hmissing : after.pathExists certPath = false)
        (hgenerate : generate draw now = .error crash) :
      Ended draw now fs certPath keyPath (.error (.crash crash)) after
  | stopped {m : Material} {fault : Fault} {made after : FileSystem}
      (hparent : makeParent fs certPath = (.ok (), made))
        (hmissing : made.pathExists certPath = false) (hgenerate : generate draw now = .ok m)
      (hwrite : writeMaterial made certPath keyPath m = (.error fault, after)) :
      Ended draw now fs certPath keyPath (.error (.fault fault)) after
  | generated {m : Material} {made after : FileSystem}
      (hparent : makeParent fs certPath = (.ok (), made))
        (hmissing : made.pathExists certPath = false) (hgenerate : generate draw now = .ok m)
      (hwrite : writeMaterial made certPath keyPath m = (.ok (), after)) :
      Ended draw now fs certPath keyPath (.ok .generated) after

/-- Provisioning ends in one of the five ways.  The cases are those of the branches that it takes,
    in their order. -/
theorem ended_ensureFiles (draw : Draw) (now : Moment) (fs : FileSystem) (certPath : Path)
    (keyPath : Option Path) :
    Ended draw now fs certPath keyPath (ensureFiles draw now fs certPath keyPath).1
      (ensureFiles draw now fs certPath keyPath).2 := by
  rw [ensureFiles]
  split
  · next hparent => exact .noDirectory hparent
  · next hparent =>
    split
    · next hexists => exact .present hparent hexists
    · next hmissing =>
      have hmissing := Bool.eq_false_iff.mpr hmissing
      split
      · next hgenerate => exact .crashed hparent hmissing hgenerate
      · next hgenerate =>
        split
        · next hwrite => exact .stopped hparent hmissing hgenerate hwrite
        · next hwrite => exact .generated hparent hmissing hgenerate hwrite

/-- The five ways are the outcome: they exclude each other, and each has one outcome. -/
theorem ensureFiles_eq_iff {outcome : Except Stop EnsureOutcome} :
    ensureFiles draw now fs certPath keyPath = (outcome, after)
      ↔ Ended draw now fs certPath keyPath outcome after := by
  constructor
  · intro h
    have hended := ended_ensureFiles draw now fs certPath keyPath
    rwa [h] at hended
  · intro h
    rw [ensureFiles]
    cases h with
    | noDirectory hparent => rw [hparent]
    | present hparent hexists => simp only [hparent, hexists, if_true]
    | crashed hparent hmissing hgenerate => simp [hparent, hmissing, hgenerate]
    | stopped hparent hmissing hgenerate hwrite => simp [hparent, hmissing, hgenerate, hwrite]
    | generated hparent hmissing hgenerate hwrite => simp [hparent, hmissing, hgenerate, hwrite]

/-! ## Footprint -/

/-- The directory above a path is made as directories are made anywhere, or nothing is done. -/
theorem makeParent_snd (fs : FileSystem) (p : Path) :
    (makeParent fs p).2 = fs
      ∨ ∃ above, above.Above p ∧ (makeParent fs p).2 = (fs.makeDirectories above).2 := by
  rw [makeParent]
  split
  · exact .inl rfl
  · next above hparent =>
    split
    · exact .inl rfl
    · next hne =>
      refine .inr ⟨above, Path.above_of_parent? hparent hne, ?_⟩
      split
      · next hmake => rw [hmake]
      · next hmake => rw [hmake]

/-- The directory above a path is made of free places alone. -/
theorem furnished_makeParent (fs : FileSystem) (p : Path) : Furnished fs (makeParent fs p).2 := by
  rcases makeParent_snd fs p with heq | ⟨above, -, heq⟩
  · rw [heq]
    exact .refl fs
  · rw [heq]
    exact FileSystem.furnished_makeDirectories fs above

theorem umask_makeParent (fs : FileSystem) (p : Path) : (makeParent fs p).2.umask = fs.umask := by
  rcases makeParent_snd fs p with heq | ⟨above, -, heq⟩
  · rw [heq]
  · rw [heq]
    exact FileSystem.umask_makeDirectories fs above

/-- Making the directory above a file touches nothing but directories above it. -/
theorem touches_makeParent (hp : p ∈ files) (fs : FileSystem) :
    Touches files fs (makeParent fs p).2 := by
  rcases makeParent_snd fs p with heq | ⟨above, habove, heq⟩
  · rw [heq]
    exact .refl files fs
  · rw [heq]
    exact FileSystem.touches_makeDirectories hp habove fs

/-- Nothing is lost where the directory above a path is made, also if that fails. -/
theorem grows_makeParent (fs : FileSystem) (p : Path) : Grows fs (makeParent fs p).2 :=
  (touches_makeParent (List.mem_singleton_self p) fs).grows

/-- Writing touches the file at the path alone, also if it fails. -/
theorem touches_writeText (htree : fs.IsTree) (hp : p ∈ files) (text : String) (mode : Nat) :
    Touches files fs (writeText fs p text mode).2 := by
  rw [writeText]
  split
  · next hwrite => exact FileSystem.touches_write htree hp hwrite
  · exact .refl files fs

/-- The key touches its own file and the directories above it, or nothing if no path is given. -/
theorem touches_writeKey (htree : fs.IsTree) (hfiles : keyPath.toList ⊆ files) (m : Material) :
    Touches files fs (writeKey fs keyPath m).2 := by
  cases keyPath with
  | none => exact .refl files fs
  | some p =>
    have hp : p ∈ files := hfiles List.mem_cons_self
    have hparent := touches_makeParent hp fs
    rw [writeKey]
    split
    · next heq =>
      rw [heq] at hparent
      exact hparent
    · next heq =>
      rw [heq] at hparent
      exact hparent.trans (touches_writeText (hparent.grows.isTree htree) hp _ _)

/-- Certificate and key touch their two files and the directories above them. -/
theorem touches_writeMaterial (htree : fs.IsTree) (hcert : certPath ∈ files)
    (hkey : keyPath.toList ⊆ files) (m : Material) :
    Touches files fs (writeMaterial fs certPath keyPath m).2 := by
  have hwritten := touches_writeText htree hcert m.certificatePem FileSystem.plainMode
  rw [writeMaterial]
  split
  · next heq =>
    rw [heq] at hwritten
    exact hwritten
  · next heq =>
    rw [heq] at hwritten
    exact hwritten.trans (touches_writeKey (hwritten.grows.isTree htree) hkey m)

/-- Provisioning touches the certificate file, the key file and missing directories above them. -/
theorem touches_ensureFiles (htree : fs.IsTree) (draw : Draw) (now : Moment)
    (certPath : Path) (keyPath : Option Path) :
    Touches (certPath :: keyPath.toList) fs (ensureFiles draw now fs certPath keyPath).2 := by
  have hcert : certPath ∈ certPath :: keyPath.toList := List.mem_cons_self
  have hkey : keyPath.toList ⊆ certPath :: keyPath.toList := List.subset_cons_self ..
  have hparent := touches_makeParent hcert fs
  have hended := ended_ensureFiles draw now fs certPath keyPath
  generalize (ensureFiles draw now fs certPath keyPath).1 = outcome at hended
  generalize (ensureFiles draw now fs certPath keyPath).2 = after at hended ⊢
  -- the files are still a tree once the directory is made, so that both steps can be put together
  have hmaterial {made : FileSystem} (m : Material)
      (hmade : makeParent fs certPath = (.ok (), made)) :
      Touches (certPath :: keyPath.toList) fs (writeMaterial made certPath keyPath m).2 := by
    rw [hmade] at hparent
    exact hparent.trans (touches_writeMaterial (hparent.grows.isTree htree) hcert hkey m)
  cases hended with
  | noDirectory hmade => rwa [hmade] at hparent
  | present hmade => rwa [hmade] at hparent
  | crashed hmade => rwa [hmade] at hparent
  | @stopped m _ _ _ hmade _ _ hwrite =>
    have htouches := hmaterial m hmade
    rwa [hwrite] at htouches
  | @generated m _ _ hmade _ _ hwrite =>
    have htouches := hmaterial m hmade
    rwa [hwrite] at htouches

end ProxyTrust.Authority
