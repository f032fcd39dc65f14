/-
  What writing a new configuration file does to the files that are there.

  1. **Cases** — `Initialised` lists the four ways in which `init` ends, with what each of them
     leaves.  Later proofs go by these cases and never unfold `init` again.

  2. **Footprint** — `init` touches the configuration file and missing directories above it, and
     reads no file: it ends the same way whatever files hold (`init_alike`).

  3. **Uncovered files** — whether something is at the path is asked before the directories above
     it are made.  A path with a `..` behind a missing directory leads to nothing at that moment,
     and afterwards to a file that was there all along.  `init_spares_all_but_uncovered`: such a
     file is overwritten, and no other one ever is, unless writing is forced.  The crux is that a
     walk that goes through a new directory can only come out of it by a `..`
     (`FileSystem.find_of_makeDirectories`).
-/
import ProxyTrust.Config.File
import ProxyTrust.Proofs.Files.Alike
import ProxyTrust.Proofs.Files.NewDirectories

namespace ProxyTrust.Config

open FileSystem (Alike AlikeEnd Furnished Touches)
open ProxyTrust.Path (Above)

variable {fs other after : FileSystem} {path above : Path} {place : Location} {force : Bool}
  {outcome : Except FileFault Unit}

/-! ## Cases -/

/-- The bytes of the template. -/
def templateBytes : List UInt8 := Text.encodeUtf8 template

/-- The file system with the directories above a path, as far as they can be made. -/
def roomed (fs : FileSystem) (path : Path) : FileSystem :=
  match directoryAbove path with
  | none => fs
  | some above => (fs.makeDirectories above).2

/-- How `init` ends, and what it leaves. -/
inductive Initialised (fs : FileSystem) (path : Path) (force : Bool) :
    Except FileFault Unit → FileSystem → Prop
  | present (hexists : fs.pathExists path = true) (hforce : force = false) :
      Initialised fs path force (.error (.present path)) fs
  | noDirectory {above : Path} {source : IoError}
      (hfree : force = false → fs.pathExists path = false)
      (habove : directoryAbove path = some above)
      (hmake : fs.makeDirectories above = (.error source, roomed fs path)) :
      Initialised fs path force (.error (.noDirectory above source)) (roomed fs path)
  | unwritable {source : IoError} (hfree : force = false → fs.pathExists path = false)
      (hwrite : (roomed fs path).write path templateBytes FileSystem.plainMode = .error source) :
      Initialised fs path force (.error (.unwritable path source)) (roomed fs path)
  | written {after : FileSystem} (hfree : force = false → fs.pathExists path = false)
      (hwrite : (roomed fs path).write path templateBytes FileSystem.plainMode = .ok after) :
      Initialised fs path force (.ok ()) after

/-- Writing the template, with the directories made, ends in one of two ways. -/
theorem initialised_writeTemplate (hfree : force = false → fs.pathExists path = false) :
    Initialised fs path force (writeTemplate (roomed fs path) path).1
      (writeTemplate (roomed fs path) path).2 := by
  rw [writeTemplate]
  split
  · next hwrite => exact .written hfree hwrite
  · next hwrite => exact .unwritable hfree hwrite

/-- A new configuration file is made in one of the four ways, whatever the files are. -/
theorem initialised_init (fs : FileSystem) (path : Path) (force : Bool) :
    Initialised fs path force (init fs path force).1 (init fs path force).2 := by
  rw [init]
  split
  · next hpresent =>
    obtain ⟨hexists, hforce⟩ := Bool.and_eq_true_iff.mp hpresent
    exact .present hexists (by simpa using hforce)
  · next hpresent =>
    -- not forced means that nothing was there
    have hfree : force = false → fs.pathExists path = false := by
      rintro rfl
      simpa using hpresent
    have htemplate := initialised_writeTemplate hfree
    split
    · next habove =>
      rw [roomed, habove] at htemplate
      exact htemplate
    · next above habove =>
      have hroomed : roomed fs path = (fs.makeDirectories above).2 := by rw [roomed, habove]
      split
      · next source left hmake =>
        rw [hmake] at hroomed
        obtain rfl := hroomed
        exact .noDirectory hfree habove hmake
      · next hmake =>
        rw [hmake] at hroomed
        rw [hroomed] at htemplate
        exact htemplate

/-! ## Footprint -/

/-- The directory that is made is the parent of the path. -/
theorem parent?_of_directoryAbove (h : directoryAbove path = some above) :
    path.parent? = some above ∧ above.bytes ≠ [] := by
  obtain ⟨hparent, hne⟩ := Option.filter_eq_some_iff.mp h
  exact ⟨hparent, by simpa using hne⟩

theorem above_of_directoryAbove (h : directoryAbove path = some above) : Above above path :=
  have hparent := parent?_of_directoryAbove h
  Path.above_of_parent? hparent.1 hparent.2

/-- Making room for the file makes directories at free places alone. -/
theorem furnished_roomed (fs : FileSystem) (path : Path) : Furnished fs (roomed fs path) := by
  rw [roomed]
  split
  · exact .refl fs
  · exact FileSystem.furnished_makeDirectories fs _

/-- Making room touches only what the path may touch. -/
theorem touches_roomed (fs : FileSystem) (path : Path) : Touches [path] fs (roomed fs path) := by
  rw [roomed]
  split
  · exact .refl _ fs
  · next habove =>
    exact FileSystem.touches_makeDirectories List.mem_cons_self (above_of_directoryAbove habove) fs

/-- A new configuration file changes that file and missing directories above it alone. -/
theorem Initialised.touches (h : Initialised fs path force outcome after) (htree : fs.IsTree) :
    Touches [path] fs after := by
  have hroomed := touches_roomed fs path
  cases h with
  | present => exact .refl _ fs
  | noDirectory => exact hroomed
  | unwritable => exact hroomed
  | written _ hwrite =>
    exact hroomed.trans
      (FileSystem.touches_write (hroomed.grows.isTree htree) List.mem_cons_self hwrite)

/-- Two file systems with the same shape end alike where the template is written. -/
theorem writeTemplate_alike (h : Alike fs other) (path : Path) :
    AlikeEnd (writeTemplate fs path) (writeTemplate other path) := by
  have hwrite := h.write path (Text.encodeUtf8 template) FileSystem.plainMode
  rw [writeTemplate, writeTemplate]
  generalize fs.write path (Text.encodeUtf8 template) FileSystem.plainMode = written at hwrite ⊢
  generalize other.write path (Text.encodeUtf8 template) FileSystem.plainMode
    = otherWritten at hwrite ⊢
  cases hwrite with
  | error => exact .same h
  | ok hafter => exact .same hafter

/-- A new configuration file does not depend on what files hold. -/
theorem init_alike (h : Alike fs other) (path : Path) (force : Bool) :
    AlikeEnd (init fs path force) (init other path force) := by
  rw [init, init, h.pathExists_eq]
  split
  · exact .same h
  · split
    · exact writeTemplate_alike h path
    · next above _ =>
      have hmade := h.makeDirectories above
      generalize fs.makeDirectories above = made at hmade ⊢
      generalize other.makeDirectories above = otherMade at hmade ⊢
      cases hmade with
      | @same outcome left otherLeft hleft =>
        cases outcome with
        | error => exact .same hleft
        | ok => exact writeTemplate_alike hleft path

/-! ## Uncovered files -/

/-- A path leads to nothing until the directories above it are made, and then to a file that was
    there before. -/
structure Uncovered (fs : FileSystem) (path : Path) (place : Location) : Prop where
  hidden : fs.pathExists path = false
  found : (roomed fs path).find path = .ok place
  file : ∃ content mode, fs.at? place = some (.file content mode)

/-- Only a path with a `..` behind a missing directory uncovers a file. -/
theorem Uncovered.detour (h : Uncovered fs path place) (htree : fs.IsTree) :
    ∃ above, directoryAbove path = some above ∧ fs.isDirectory above = false
      ∧ Path.dotDot ∈ Path.components path.bytes := by
  -- before the directories were made, the path led nowhere
  have hlost : fs.find path ≠ .ok place := by
    intro hfind
    have hexists := FileSystem.pathExists_iff.mpr ⟨place, hfind⟩
    rw [h.hidden] at hexists
    nomatch hexists
  have hfound := h.found
  rw [roomed] at hfound
  split at hfound
  · exact absurd hfound hlost
  · next above habove =>
    refine ⟨above, habove, Bool.eq_false_iff.mpr fun hdirectory => ?_, ?_⟩
    · rw [FileSystem.makeDirectories_of_isDirectory hdirectory] at hfound
      exact hlost hfound
    · -- a path without a `..` leads to what it led to before
      by_cases hdotted : Path.dotDot ∈ Path.components path.bytes
      · exact hdotted
      · obtain ⟨content, mode, hfile⟩ := h.file
        refine absurd
          (FileSystem.find_of_makeDirectories htree (above_of_directoryAbove habove) hdotted
          hfound ?_) hlost
        rw [hfile]
        exact Option.some_ne_none _

/-- An uncovered file is overwritten, and `init` says that it worked. -/
theorem Uncovered.overwritten (h : Uncovered fs path place)
    (hinit : Initialised fs path false outcome after) {content : List UInt8} {mode : Nat}
    (hat : fs.at? place = some (.file content mode)) :
    outcome = .ok () ∧ after.at? place = some (.file templateBytes mode) := by
  obtain ⟨written, hwritten, hnew⟩ := FileSystem.write_of_find h.found
    ((furnished_roomed fs path).at? hat) templateBytes FileSystem.plainMode
  cases hinit with
  | present hexists _ =>
    rw [h.hidden] at hexists
    nomatch hexists
  | noDirectory _ habove hmake =>
    -- what the path leads to would stand in a directory that could not be made
    obtain ⟨hparent, hne⟩ := parent?_of_directoryAbove habove
    have hdirectory := FileSystem.isDirectory_parent h.found hparent hne
    rw [FileSystem.isDirectory_of_makeDirectories_error hmake] at hdirectory
    nomatch hdirectory
  | unwritable _ hwrite =>
    rw [hwritten] at hwrite
    nomatch hwrite
  | written _ hwrite =>
    obtain rfl := Except.ok.inj (hwritten.symm.trans hwrite)
    exact ⟨rfl, hnew⟩

/-- The file that `init` wrote is new or was uncovered. -/
theorem written_new_or_uncovered (htree : fs.IsTree) (hfree : fs.pathExists path = false)
    (hwrite : (roomed fs path).write path templateBytes FileSystem.plainMode = .ok after) :
    ∃ place, FileSystem.Gains (roomed fs path) after place templateBytes
      ∧ after.find path = .ok place
      ∧ (fs.at? place = none ∨ Uncovered fs path place) := by
  have hroomed := touches_roomed fs path
  obtain ⟨place, hgains, hfind, -⟩ := (hroomed.grows.isTree htree).write hwrite
  refine ⟨place, hgains, hfind, ?_⟩
  rcases hgains.writable with hnone | ⟨old, mode, hfile⟩
  · exact .inl ((furnished_roomed fs path).free hnone)
  · exact .inr ⟨hfree, (hgains.symm hfile).find hfind,
      old, mode, (furnished_roomed fs path).file_iff.mp hfile⟩

/-- Unless writing is forced, the template takes the place of a file exactly where the path
    uncovers it, and leaves every other file as it was, whether it is written or not.  Where it is
    written, it is in a new file or in an uncovered one.  Only a path with a `..` behind a missing
    directory uncovers a file. -/
theorem init_spares_all_but_uncovered (htree : fs.IsTree) (path : Path) :
    (∀ place content mode, fs.at? place = some (.file content mode) →
      (Uncovered fs path place → (init fs path false).1 = .ok ()
        ∧ (init fs path false).2.at? place = some (.file templateBytes mode))
      ∧ (¬ Uncovered fs path place →
        (init fs path false).2.at? place = some (.file content mode)))
    ∧ ((init fs path false).1 = .ok () → ∃ place mode,
      (init fs path false).2.find path = .ok place
      ∧ (init fs path false).2.at? place = some (.file templateBytes mode)
      ∧ (fs.at? place = none ∨ Uncovered fs path place))
    ∧ ∀ place, Uncovered fs path place → ∃ above, directoryAbove path = some above
      ∧ fs.isDirectory above = false ∧ Path.dotDot ∈ Path.components path.bytes := by
  have hcases := initialised_init fs path false
  generalize (init fs path false).1 = outcome at hcases ⊢
  generalize (init fs path false).2 = after at hcases ⊢
  have hroomed := furnished_roomed fs path
  refine ⟨fun place content mode hat => ⟨fun hun => hun.overwritten hcases hat, fun hcovered => ?_⟩,
    fun hok => ?_, fun place hun => hun.detour htree⟩
  · cases hcases with
    | present => exact hat
    | noDirectory => exact hroomed.at? hat
    | unwritable => exact hroomed.at? hat
    | written hfree hwrite =>
      obtain ⟨written, hgains, -, hnew⟩ := written_new_or_uncovered htree (hfree rfl) hwrite
      -- what is written was free, or it is uncovered itself
      have hother : place ≠ written := by
        rintro rfl
        rcases hnew with hnone | hun
        · rw [hat] at hnone
          nomatch hnone
        · exact hcovered hun
      rw [hgains.others place hother, hroomed.at? hat]
  · cases hcases with
    | present => nomatch hok
    | noDirectory => nomatch hok
    | unwritable => nomatch hok
    | written hfree hwrite =>
      obtain ⟨written, hgains, hfind, hnew⟩ := written_new_or_uncovered htree (hfree rfl) hwrite
      obtain ⟨mode, hfile⟩ := hgains.holds
      exact ⟨written, mode, hfind, hfile, hnew⟩

/-! ## A configuration that is lost -/

/-- The path of a configuration in the working directory, by way of a directory that is missing. -/
def detour : Path := .ofString "new/../config.toml"

/-- The place of that configuration. -/
def ownPlace : Location := [Text.encodeUtf8 "config.toml".toList]

/-- A configuration with a port of the user's own. -/
def ownBytes : List UInt8 := Text.encodeUtf8 "listen = \"127.0.0.1:3128\"\n".toList

/-- The root with that configuration in it. -/
def ownFiles : FileSystem := ⟨[(ownPlace, .file ownBytes 0o644)], [], 0o022⟩

/-- The configuration is uncovered, and the template takes its place. -/
theorem init_spares_all_but_uncovered_detour :
    ownFiles.IsTree ∧ Uncovered ownFiles detour ownPlace
    ∧ (init ownFiles detour false).2.at? ownPlace = some (.file templateBytes 0o644) := by
  have htree : ownFiles.IsTree := FileSystem.isTree_of_entries (by decide +kernel)
  have huncovered : Uncovered ownFiles detour ownPlace :=
    ⟨by decide +kernel, rfl, ownBytes, 0o644, by decide +kernel⟩
  have hspares := (init_spares_all_but_uncovered htree detour).1
  exact ⟨htree, huncovered, ((hspares ownPlace ownBytes 0o644 (by decide +kernel)).1 huncovered).2⟩

/-- Writing that is not forced says that it worked and has overwritten a file that was there. -/
theorem own_configuration_overwritten :
    ¬ (∀ place content mode, ownFiles.at? place = some (.file content mode) →
      ∃ later, (init ownFiles detour false).2.at? place = some (.file content later)) := by
  intro hkept
  obtain ⟨later, hlater⟩ := hkept ownPlace ownBytes 0o644 (by decide +kernel)
  have hlost : (init ownFiles detour false).2.at? ownPlace = some (.file templateBytes 0o644) := by
    decide +kernel
  rw [hlost] at hlater
  have hsame : templateBytes = ownBytes := (Entry.file.inj (Option.some.inj hlater)).1
  exact absurd hsame (by decide +kernel)

end ProxyTrust.Config
