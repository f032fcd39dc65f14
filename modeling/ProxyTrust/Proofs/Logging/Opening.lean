/-
  When logging starts, and why it does not.

  1. **Answers** — starting goes by two answers of the system: whether the directory could be
     made, and whether the file could be opened after that.  A failure of the first is told, one
     of the second is a crash (`start_eq`, `outcome_eq_startFrom`).

  2. **The directory** — where it was made, the path of the log is looked up from it, by one more
     name (`lookUpFor_file`).  The walk over the directory succeeded, so that only the last name
     is left to fail.

  3. **What is in the way** — a name that is no UTF-8, holds a NUL or is too long, a path that is
     too long, or a directory of that name.  Unless a link has the name, these are the reasons not
     to open the file, with the errors that they end with (`openFile_eq`).  `hindrance` puts them
     in the order in which the system finds them, so that it is a function and tells one error.
-/
import ProxyTrust.Proofs.Files.Joining
import ProxyTrust.Proofs.Logging
import ProxyTrust.Proofs.Outcome

namespace ProxyTrust.Logging

open FileSystem (checkPath nameLimit pathLimit walk_eq walkNames_takes)

variable {fs made : FileSystem} {log : Path} {here : Location} {e : IoError}

/-! ## Answers -/

/-- The name of the log file. -/
def name (log : Path) : Name := log.fileName?.getD usualName

/-- The name of the log file is no text. -/
def Unspeakable (log : Path) : Prop := (Text.decodeUtf8? (name log)).isNone = true

instance (log : Path) : Decidable (Unspeakable log) := inferInstanceAs (Decidable (_ = true))

/-- The log file opened where its directory is. -/
def openFile (made : FileSystem) (log : Path) : Except IoError FileSystem :=
  if Unspeakable log then .error .notUtf8 else touch made (file log)

/-- The path that a crash names. -/
def blamed (log : Path) : Path := if Unspeakable log then log else file log

/-- What a system answers: whether the directory can be made, and whether the file can be opened
    then. -/
structure Answers where
  directory : Except IoError Unit
  file : Except IoError Unit

/-- The answers of a file system. -/
def answers (fs : FileSystem) (log : Path) : Answers where
  directory := (fs.makeDirectories (directory log)).1
  file := (openFile (fs.makeDirectories (directory log)).2 log).map fun _ => ()

/-- How logging starts, by the answers of the system. -/
def startFrom (log : Path) (a : Answers) : Except Failure Unit :=
  match a.directory, a.file with
  | .error source, _ => .error (.noDirectory (directory log) source)
  | .ok (), .error source => .error (.crash (.logFile (blamed log) source))
  | .ok (), .ok () => .ok ()

/-- Starting is making the directory and opening the file. -/
theorem start_eq (fs : FileSystem) (log : Path) :
    start fs log = match fs.makeDirectories (directory log) with
      | (.error source, made) => (.error (.noDirectory (directory log) source), made)
      | (.ok (), made) =>
        match openFile made log with
        | .error source => (.error (.crash (.logFile (blamed log) source)), made)
        | .ok opened => (.ok (), opened) := by
  unfold start openFile blamed
  dsimp only
  rcases fs.makeDirectories (directory log) with ⟨source | _, made⟩
  · rfl
  · by_cases hname : Unspeakable log
    · have hnone : (Text.decodeUtf8? (log.fileName?.getD usualName)).isNone = true := hname
      simp only [if_pos hname, if_pos hnone]
    · have hsome : ¬ (Text.decodeUtf8? (log.fileName?.getD usualName)).isNone = true := hname
      simp only [if_neg hname, if_neg hsome]
      cases touch made (file log) <;> rfl

/-- How logging starts is told by the two answers alone. -/
theorem outcome_eq_startFrom (fs : FileSystem) (log : Path) :
    (start fs log).1 = startFrom log (answers fs log) := by
  rw [start_eq, answers, startFrom]
  rcases fs.makeDirectories (directory log) with ⟨source | _, made⟩
  · rfl
  · dsimp only
    cases openFile made log with
    | error source => rfl
    | ok opened => rfl

/-- Starting crashes exactly if the directory can be made and the file cannot be opened. -/
theorem startFrom_crashes_iff (log : Path) (a : Answers) :
    (∃ path source, startFrom log a = .error (.crash (.logFile path source)))
      ↔ a.directory = .ok () ∧ ∃ source, a.file = .error source := by
  obtain ⟨made, found⟩ := a
  unfold startFrom
  cases made with
  | error source => exact iff_of_false (fun ⟨_, _, h⟩ => nomatch h) fun h => nomatch h.1
  | ok _ =>
    cases found with
    | error source => exact iff_of_true ⟨_, _, rfl⟩ ⟨rfl, source, rfl⟩
    | ok _ => exact iff_of_false (fun ⟨_, _, h⟩ => nomatch h) fun ⟨_, _, h⟩ => nomatch h

/-! ## The directory -/

/-- The log always has a directory, the working directory if no other. -/
theorem directory_ne_nil (log : Path) : (directory log).bytes ≠ [] := by
  unfold directory
  split
  · split
    · exact List.cons_ne_nil _ _
    · next hne => exact hne
  · exact List.cons_ne_nil _ _

/-- A directory that was made for a log is there. -/
theorem find_directory (hmade : fs.makeDirectories (directory log) = (.ok (), made)) :
    ∃ here, made.find (directory log) = .ok here ∧ made.isDirectoryAt here = true := by
  have hdirectory := FileSystem.isDirectory_of_makeDirectories (directory_ne_nil log) hmade
  obtain ⟨here, hfind⟩ := FileSystem.find_of_isDirectory hdirectory
  rw [FileSystem.isDirectory, hfind] at hdirectory
  exact ⟨here, hfind, hdirectory⟩

/-- The name of the log file is neither of the two that every directory holds. -/
theorem name_plain (log : Path) : name log ≠ Path.dot ∧ name log ≠ Path.dotDot := by
  unfold name
  cases hname : log.fileName? with
  | none => exact ⟨by decide, by decide⟩
  | some row => exact Path.fileName?_plain hname

/-- No slash follows the name of the log file. -/
theorem endsInSlash_file (log : Path) : Path.endsInSlash (file log).bytes = false := by
  obtain ⟨hne, hplain⟩ := logName_spec log
  have hlast : (file log).bytes.getLast? = some ((name log).getLast hne) := by
    have hend := List.getLast?_eq_some_getLast hne
    unfold file
    dsimp only
    split
    · rw [List.getLast?_append, hend]
      rfl
    · rw [List.getLast?_append, hend]
      rfl
  have hslash : (name log).getLast hne ≠ Path.separator := by
    intro heq
    exact hplain (heq ▸ List.getLast_mem hne)
  rw [Path.endsInSlash, hlast]
  simp [hslash]

/-- The path of the log, where the system takes it, is looked up in the directory. -/
theorem lookUpFor_file (hfind : made.find (directory log) = .ok here)
    (hpath : checkPath (file log) = .ok ()) :
    ∃ links, made.lookUpFor .made (file log) = made.walk .made links here [name log] false := by
  obtain ⟨links, hlookUp⟩ :=
    FileSystem.lookUpFor_below hfind (directory_prefix_file log) (components_file log)
    (List.cons_ne_nil _ _) hpath
  refine ⟨links, ?_⟩
  rw [hlookUp, endsInSlash_file]
  rfl

/-! ## What is in the way -/

/-- What is in the way of opening the log file in its directory, unless a link has its name. -/
def hindrance (made : FileSystem) (here : Location) (log : Path) : Option IoError :=
  if Unspeakable log then some .notUtf8
  else if (file log).hasNul then some .nulInPath
  else if pathLimit ≤ (file log).bytes.length ∨ nameLimit < (name log).length then some .nameTooLong
  else if made.at? (name log :: here) = some .directory then some .isDirectory
  else none

/-- Without a link of its name, the log file is opened exactly if nothing is in the way; it is
    there then, and one that was there stays as it was. -/
theorem openFile_eq (hfind : made.find (directory log) = .ok here)
    (hdirectory : made.isDirectoryAt here = true)
    (hlink : ∀ target, made.at? (name log :: here) ≠ some (.link target)) :
    openFile made log = match hindrance made here log with
      | some e => .error e
      | none => .ok (if made.at? (name log :: here) = none then
          made.putFile (name log :: here) [] FileSystem.plainMode else made) := by
  unfold openFile hindrance
  split
  · rfl
  unfold touch FileSystem.placeToWrite
  -- the path as a whole is checked first, then its last name in the directory
  by_cases hnul : (file log).hasNul = true
  · have hpath : checkPath (file log) = .error .nulInPath := by rw [checkPath, if_pos hnul]
    simp only [FileSystem.lookUpFor, hpath, if_pos hnul]
  rw [if_neg hnul]
  have hne : (file log).bytes ≠ [] := (above_file log).ne_nil (directory_ne_nil log)
  by_cases hlong : pathLimit ≤ (file log).bytes.length
  · have hpath : checkPath (file log) = .error .nameTooLong := by
      rw [checkPath, if_neg hnul, if_neg hne, if_pos hlong]
    simp only [FileSystem.lookUpFor, hpath, if_pos (Or.inl hlong)]
  have hpath : checkPath (file log) = .ok () := by
    rw [checkPath, if_neg hnul, if_neg hne, if_neg hlong]
  obtain ⟨links, hlookUp⟩ := lookUpFor_file hfind hpath
  obtain ⟨hdot, hdotDot⟩ := name_plain log
  rw [hlookUp, walk_eq]
  by_cases hname : nameLimit < (name log).length
  · rw [if_pos (.inr hname)]
    simp [FileSystem.walkNames, hdirectory, hdot, hdotDot, hname]
  · have htakes : FileSystem.Takes made .made false here (name log) [] :=
      ⟨hdirectory, hdot, hdotDot, (fun h => Bool.false_ne_true h.2.1), hname⟩
    rw [if_neg (not_or.mpr ⟨hlong, hname⟩), walkNames_takes htakes]
    cases hat : made.at? (name log :: here) with
    | none => simp [hat]
    | some entry =>
      cases entry with
      | link target => exact absurd hat (hlink target)
      | directory => simp [FileSystem.walkNames, FileSystem.isDirectoryAt, hat]
      | file content mode => simp [FileSystem.walkNames, FileSystem.isDirectoryAt, hat]

/-- The file cannot be opened exactly if one of the hindrances is there, with its own error. -/
theorem openFile_eq_error_iff (hfind : made.find (directory log) = .ok here)
    (hdirectory : made.isDirectoryAt here = true)
    (hlink : ∀ target, made.at? (name log :: here) ≠ some (.link target)) :
    openFile made log = .error e ↔ hindrance made here log = some e := by
  rw [openFile_eq hfind hdirectory hlink]
  cases hindrance made here log with
  | none => simp only [reduceCtorEq]
  | some source =>
    exact ⟨fun h => congrArg some (Except.error.inj h), fun h => congrArg _ (Option.some.inj h)⟩

/-- A path of the log that leads to a directory, over links or not, is never opened. -/
theorem openFile_of_isDirectory (h : made.isDirectory (file log) = true) :
    ∃ source, openFile made log = .error source := by
  obtain ⟨place, hfind⟩ := FileSystem.find_of_isDirectory h
  have hplace : made.isDirectoryAt place = true := by rwa [FileSystem.isDirectory, hfind] at h
  obtain ⟨slash, hlookUp, -⟩ := FileSystem.find_eq_ok_iff.mp hfind
  unfold openFile touch FileSystem.placeToWrite
  split
  · exact ⟨_, rfl⟩
  cases hmade : made.lookUpFor .made (file log) with
  | error source => exact ⟨source, rfl⟩
  | ok spot =>
    -- the walk to a target ends at the same spot, so it is the directory
    obtain ⟨hpath, hleads⟩ := FileSystem.lookUpFor_eq_ok_iff.mp hmade
    have htarget := FileSystem.lookUpFor_eq_ok_iff.mpr ⟨hpath, hleads.target⟩
    obtain rfl := Except.ok.inj (htarget.symm.trans hlookUp)
    exact ⟨.isDirectory, by simp only [hplace, if_true]⟩

end ProxyTrust.Logging
