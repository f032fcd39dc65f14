/-
  Which places the log may change.

  1. **Names** — the log file is its directory and a name, which is the usual one where the path
     has none.  So the directory stands above the file, in bytes and in names (`above_file`).

  2. **Footprint** — hence opening the log touches the log file and missing directories above it,
     also where it fails half-way (`touches_start`): making the directory and opening the file
     have that footprint, and footprints follow each other.
-/
import ProxyTrust.Logging
import ProxyTrust.Proofs.Files.Footprint

namespace ProxyTrust.Logging

open FileSystem (Touches)

variable {fs after : FileSystem} {path : Path} {files : List Path}

/-- A log file has a name, and the name holds no slash. -/
theorem logName_spec (log : Path) :
    log.fileName?.getD usualName ≠ [] ∧ Path.separator ∉ log.fileName?.getD usualName := by
  cases hname : log.fileName? with
  | none => exact ⟨by decide, by decide⟩
  | some name => exact Path.fileName?_spec hname

/-- The file of a log goes over its directory, by one more name. -/
theorem components_file (log : Path) :
    Path.components (file log).bytes
      = Path.components (directory log).bytes ++ [log.fileName?.getD usualName] := by
  obtain ⟨hne, hplain⟩ := logName_spec log
  rw [file]
  generalize log.fileName?.getD usualName = name at hne hplain ⊢
  have hname : Path.components name = [name] := by
    rw [Path.components, Path.splitSlashes_row hplain]
    exact List.filter_cons_of_pos (by simpa using hne)
  split
  · next hslash =>
    -- the directory ends in a slash, and no other one is put before the name
    obtain ⟨front, hfront⟩ := List.getLast?_eq_some_iff.mp hslash
    rw [hfront, List.append_assoc]
    exact (Path.components_append_separator front name).trans (by
      rw [Path.components_append_separator front [], hname]
      exact congrArg (· ++ [name]) (List.append_nil _).symm)
  · rw [List.append_assoc]
    exact (Path.components_append_separator _ name).trans (by rw [hname])

/-- The directory of the log is a front part of its file. -/
theorem directory_prefix_file (log : Path) : (directory log).bytes <+: (file log).bytes := by
  rw [file]
  split
  · exact List.prefix_append ..
  · rw [List.append_assoc]
    exact List.prefix_append ..

theorem above_file (log : Path) : (directory log).Above (file log) :=
  ⟨directory_prefix_file log, _, List.cons_ne_nil _ _, components_file log⟩

/-- Opening a file touches its own place alone. -/
theorem touches_touch (htree : fs.IsTree) (hpath : path ∈ files) (h : touch fs path = .ok after) :
    Touches files fs after := by
  rw [touch] at h
  split at h
  · nomatch h
  · next place hplace =>
    split at h
    · obtain rfl := Except.ok.inj h
      exact .refl files fs
    · obtain rfl := Except.ok.inj h
      have hwrite : fs.write path [] FileSystem.plainMode
          = .ok (fs.putFile place [] FileSystem.plainMode) := by
        rw [FileSystem.write, hplace]
      exact FileSystem.touches_write htree hpath hwrite

/-- Opening the log touches its file and missing directories above it. -/
theorem touches_start (htree : fs.IsTree) (log : Path) :
    Touches [file log] fs (start fs log).2 := by
  have hmade :=
    FileSystem.touches_makeDirectories (List.mem_singleton_self (file log)) (above_file log) fs
  simp only [start]
  split
  · next heq =>
    rw [heq] at hmade
    exact hmade
  · next heq =>
    rw [heq] at hmade
    split
    · exact hmade
    · split
      · next htouch =>
        exact hmade.trans
          (touches_touch (hmade.grows.isTree htree) (List.mem_singleton_self _) htouch)
      · exact hmade

end ProxyTrust.Logging
