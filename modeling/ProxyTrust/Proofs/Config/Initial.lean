/-
  A new configuration file, loaded and made again.

  1. **The template** — it describes the configuration of an empty document, and it is found where
     it was written: what `init` has written is loaded as the defaults.  That it can be found
     there needs a file system that is a tree, in which the place that was written keeps its
     directories.

  2. **A second time** — the path leads to the template now.  Without force `init` stops there;
     with force it finds the directories made and writes the same bytes into the same file, so
     that nothing changes (`IsTree.write_again`).

  3. **Failures** — a failure leaves new directories at most, and a file that is there is never
     touched by one (`Initialised.file_iff`).  `init_loads_or_spares` puts the three together.
-/
import ProxyTrust.Proofs.Config.RoundTrip
import ProxyTrust.Proofs.Config.Template
import ProxyTrust.Proofs.Outcome

namespace ProxyTrust.Config

variable {fs after : FileSystem} {path : Path} {force : Bool} {outcome : Except FileFault Unit}

/-! ## The template -/

/-- The template describes the configuration of an empty document. -/
theorem ofText_template : ofText template = .ok .default := by
  have hpaths : ∀ p ∈ default.paths, IsText p := by
    intro p hp
    simp only [paths, default, CaConfig.default, Option.toList_some, Option.toList_none,
      List.append_nil, List.cons_append, List.nil_append, List.mem_cons, List.not_mem_nil,
        or_false] at hp
    rcases hp with rfl | rfl | rfl <;> exact ⟨_, rfl⟩
  have hlisten : Endpoint.ofText default.listen.text = .ok default.listen := rfl
  obtain ⟨text, htext, hread⟩ := retold_of_document hlisten hpaths
  rw [template, htext, Option.getD_some, hread]
  rfl

/-- A template that was written is found under its path, and is loaded as the defaults. -/
theorem loaded_of_write (htree : fs.IsTree)
    (hwrite : fs.write path templateBytes FileSystem.plainMode = .ok after) :
    after.read path = .ok templateBytes ∧ load after path = .ok .default := by
  obtain ⟨place, hgains, hfind, -⟩ := htree.write hwrite
  obtain ⟨mode, hfile⟩ := hgains.holds
  have hread := FileSystem.read_of_find hfind hfile
  exact ⟨hread, load_of_read hread ofText_template⟩

/-! ## A second time -/

/-- Where something is at the path, nothing is written without force. -/
theorem init_of_exists (hexists : fs.pathExists path = true) :
    init fs path false = (.error (.present path), fs) := by
  rw [init, hexists]
  rfl

/-- Where a path leads to something, the directory above it is there. -/
theorem isDirectory_directoryAbove {above : Path} (hexists : fs.pathExists path = true)
    (habove : directoryAbove path = some above) : fs.isDirectory above = true := by
  obtain ⟨place, hfind⟩ := FileSystem.pathExists_iff.mp hexists
  obtain ⟨hparent, hne⟩ := parent?_of_directoryAbove habove
  exact FileSystem.isDirectory_parent hfind hparent hne

/-- Where something is at the path, writing by force is all that is done. -/
theorem init_of_write (hexists : fs.pathExists path = true)
    (hwrite : fs.write path templateBytes FileSystem.plainMode = .ok after) :
    init fs path true = (.ok (), after) := by
  have htemplate : writeTemplate fs path = (.ok (), after) := by
    rw [templateBytes] at hwrite
    rw [writeTemplate, hwrite]
  rw [init, if_neg (by simp)]
  split
  · exact htemplate
  · next above habove =>
    rw [FileSystem.makeDirectories_of_isDirectory (isDirectory_directoryAbove hexists habove)]
    exact htemplate

/-- After `init` has written the template, it finds it there. -/
theorem init_again (htree : fs.IsTree)
    (hwrite : fs.write path templateBytes FileSystem.plainMode = .ok after) :
    init after path false = (.error (.present path), after)
      ∧ init after path true = (.ok (), after) := by
  have hexists := (FileSystem.grows_write htree hwrite).2
  exact ⟨init_of_exists hexists, init_of_write hexists (htree.write_again hwrite)⟩

/-! ## Failures -/

/-- `init` says that something is in the way exactly where something is at the path and it is not
    forced. -/
theorem Initialised.present_iff (h : Initialised fs path force outcome after) :
    outcome = .error (.present path) ↔ fs.pathExists path = true ∧ force = false := by
  have hopen (hfree : force = false → fs.pathExists path = false) :
      ¬ (fs.pathExists path = true ∧ force = false) := by
    rintro ⟨hexists, hforce⟩
    rw [hfree hforce] at hexists
    nomatch hexists
  cases h with
  | present hexists hforce => exact iff_of_true rfl ⟨hexists, hforce⟩
  | noDirectory hfree => exact iff_of_false (fun h => nomatch h) (hopen hfree)
  | unwritable hfree => exact iff_of_false (fun h => nomatch h) (hopen hfree)
  | written hfree => exact iff_of_false (fun h => nomatch h) (hopen hfree)

/-- Where `init` fails, the files are those that were there before. -/
theorem Initialised.file_iff {fault : FileFault}
    (h : Initialised fs path force (.error fault) after) (place : Location) (content : List UInt8)
    (mode : Nat) :
    after.at? place = some (.file content mode) ↔ fs.at? place = some (.file content mode) := by
  cases h with
  | present => exact Iff.rfl
  | noDirectory => exact (furnished_roomed fs path).file_iff
  | unwritable => exact (furnished_roomed fs path).file_iff

/-- Where `init` succeeds, the template was written when the directories above were made. -/
theorem Initialised.write (h : Initialised fs path force (.ok ()) after) :
    (roomed fs path).write path templateBytes FileSystem.plainMode = .ok after := by
  cases h with
  | written _ hwrite => exact hwrite

/-- Where `init` succeeds, the template is at the path and is loaded as the defaults; without
    force a second `init` fails and leaves it there, with force it succeeds, and either changes
    nothing.  Where `init` fails, every file is as it was and there is no new one.  It fails
    because something is at the path exactly where that is so and it is not forced, and then
    nothing at all changes. -/
theorem init_loads_or_spares (htree : fs.IsTree) (path : Path) (force : Bool) :
    ((init fs path force).1 = .ok () →
      (init fs path force).2.read path = .ok templateBytes
      ∧ load (init fs path force).2 path = .ok .default
      ∧ init (init fs path force).2 path false = (.error (.present path), (init fs path force).2)
      ∧ init (init fs path force).2 path true = (.ok (), (init fs path force).2))
    ∧ (∀ fault, (init fs path force).1 = .error fault → ∀ place content mode,
      (init fs path force).2.at? place = some (.file content mode)
        ↔ fs.at? place = some (.file content mode))
    ∧ ((init fs path force).1 = .error (.present path) ↔ fs.pathExists path = true ∧ force = false)
    ∧ (fs.pathExists path = true → force = false → (init fs path force).2 = fs) := by
  have hcases := initialised_init fs path force
  refine ⟨fun hok => ?_, fun fault hfault => ?_, hcases.present_iff, ?_⟩
  · rw [hok] at hcases
    have hroomed : (roomed fs path).IsTree := (touches_roomed fs path).grows.isTree htree
    obtain ⟨hread, hload⟩ := loaded_of_write hroomed hcases.write
    exact ⟨hread, hload, init_again hroomed hcases.write⟩
  · rw [hfault] at hcases
    exact hcases.file_iff
  · rintro hexists rfl
    rw [init_of_exists hexists]

/-- A root with a directory, and a link to it. -/
def linkedFiles : FileSystem :=
  ⟨[([Text.encodeUtf8 "etc".toList], .directory),
    ([Text.encodeUtf8 "conf".toList], .link (Path.ofString "etc"))], [], 0o022⟩

/-- A path over the link, through a directory that is missing and out of it again. -/
def linkedPath : Path := .ofString "conf/new/../config.toml"

/-- The template is written over the link, and read, kept and written once more there; a path
    below it fails and leaves it alone. -/
theorem init_loads_or_spares_linked :
    linkedFiles.IsTree
    ∧ (init linkedFiles linkedPath false).1 = .ok ()
    ∧ load (init linkedFiles linkedPath false).2 linkedPath = .ok .default
    ∧ init (init linkedFiles linkedPath false).2 linkedPath true
      = (.ok (), (init linkedFiles linkedPath false).2)
    ∧ (∃ fault, (init ownFiles (.ofString "config.toml/new.toml") true).1 = .error fault)
    ∧ (init ownFiles (.ofString "config.toml/new.toml") true).2.at? ownPlace
      = some (.file ownBytes 0o644) := by
  have htree : linkedFiles.IsTree := FileSystem.isTree_of_entries (by decide +kernel)
  have hown : ownFiles.IsTree := FileSystem.isTree_of_entries (by decide +kernel)
  have hok : (init linkedFiles linkedPath false).1 = .ok () :=
    toOption_eq_some_iff.mp (by decide +kernel)
  obtain ⟨-, hload, -, hforced⟩ := (init_loads_or_spares htree linkedPath false).1 hok
  obtain ⟨fault, hfault⟩ : ∃ fault, (init ownFiles (.ofString "config.toml/new.toml") true).1
      = .error fault :=
    exists_error_iff.mpr fun ⟨(), hwritten⟩ => absurd (toOption_eq_some_iff.mpr hwritten)
      (by decide +kernel)
  have hkept := (init_loads_or_spares hown (.ofString "config.toml/new.toml") true).2.1 fault hfault
  exact ⟨htree, hok, hload, hforced, ⟨fault, hfault⟩,
    (hkept ownPlace ownBytes 0o644).mpr (by decide +kernel)⟩

end ProxyTrust.Config
