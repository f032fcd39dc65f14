/-
  What the utilities that copy and remove do to files.

  1. **Arguments** — an argument with a dash in front is an option, all others are operands
     (`splitOptions_operand`, `splitOptions_option`).  What a utility does to files is said of
     operands, one by one.

  2. **Copies** — after a copy that succeeded, the source and the place of the copy read the same;
     a copy succeeds where there is room for it (`copyOne_of_room`).  A directory as the target
     takes a file of the same name as the source.

  3. **Removal** — `Removes fs operand place` says that `rm -f` of an operand takes the entry at a
     location away: the operand is no option, it names the entry, and no slash follows.
     `loses_of_rm` shows that a removal that succeeded took away that entry, if any, and nothing
     else.  It may well succeed without taking anything away.  A removal that failed changed
     nothing, so that a file is gone in any case exactly if the operand names it
     (`at?_rm_removed`, `at?_rm_kept`).
-/
import ProxyTrust.Host.Utility
import ProxyTrust.Proofs.Files.Writing
import ProxyTrust.Proofs.Outcome

namespace ProxyTrust

namespace FileSystem

variable {fs : FileSystem} {p : Path} {place : Location}

/-- The path names the entry at the location; a link in the last place is that entry. -/
def Names (fs : FileSystem) (p : Path) (place : Location) : Prop :=
  ∃ slash, fs.lookUpSelf p = .ok (.there place slash)

/-- A path that leads to a location names that location, or a link. -/
theorem names_of_find (hfind : fs.find p = .ok place) :
    ∃ named, fs.Names p named ∧ (named = place ∨ ∃ target, fs.at? named = some (.link target)) := by
  obtain ⟨slash, hlookUp, -⟩ := find_eq_ok_iff.mp hfind
  obtain ⟨hpath, hleads⟩ := lookUpFor_eq_ok_iff.mp hlookUp
  obtain ⟨stop, hstop, rfl | ⟨named, target, rfl, hlink⟩⟩ := hleads.itself_of_target
  · exact ⟨place, ⟨slash, lookUpFor_eq_ok_iff.mpr ⟨hpath, hstop⟩⟩, .inl rfl⟩
  · exact ⟨named, ⟨_, lookUpFor_eq_ok_iff.mpr ⟨hpath, hstop⟩⟩, .inr ⟨target, hlink⟩⟩

/-- A path that leads to something names something. -/
theorem exists_names (hfind : fs.find p = .ok place) (hat : (fs.at? place).isSome = true) :
    ∃ named, fs.Names p named ∧ (fs.at? named).isSome = true := by
  obtain ⟨named, hnames, rfl | ⟨target, hlink⟩⟩ := names_of_find hfind
  · exact ⟨named, hnames, hat⟩
  · exact ⟨named, hnames, by rw [hlink]; rfl⟩

/-- A path that leads to something that is no directory has no slash in the end. -/
theorem endsInSlash_of_find (hfind : fs.find p = .ok place)
    (hfile : fs.isDirectoryAt place = false) : Path.endsInSlash p.bytes = false := by
  obtain ⟨slash, hlookUp, hslash⟩ := find_eq_ok_iff.mp hfind
  obtain ⟨-, hleads⟩ := lookUpFor_eq_ok_iff.mp hlookUp
  cases slash with
  | false => exact (hleads.made_of_target rfl).1
  | true => nomatch hfile.symm.trans (hslash rfl)

/-- A path names one entry at most. -/
theorem Names.unique {other : Location} (h : fs.Names p place) (hother : fs.Names p other) :
    place = other := by
  obtain ⟨slash, h⟩ := h
  obtain ⟨slash', hother⟩ := hother
  rw [h] at hother
  exact (Spot.there.inj (Except.ok.inj hother)).1

end FileSystem

namespace Host

open FileSystem (Gains Names)

variable {fs after : FileSystem} {input : Input}

/-! ## Options -/

/-- The argument is read as options, or ends them. -/
def isOption : List Char → Bool
  | '-' :: _ :: _ => true
  | _ => false

/-- An operand is put aside, and the options after it are read. -/
theorem splitOptions_operand (known : List Char) {operand : List Char}
    (h : isOption operand = false) (rest : List (List Char)) :
    splitOptions known (operand :: rest)
      = (splitOptions known rest).map fun (options, operands) =>
        (options, operand :: operands) := by
  match operand with
  | [] => rfl
  | [c] =>
    rw [splitOptions]
    · simp
    · simp
  | c :: letter :: letters =>
    have hdash : c ≠ '-' := by
      rintro rfl
      nomatch h
    rw [splitOptions]
    · simp [hdash]
    · simp [hdash]

/-- An option in front of operands is no operand. -/
theorem splitOptions_option {known : List Char} {operand : List Char} (h : isOption operand = true)
    {rest : List (List Char)} (hrest : splitOptions known rest = some ([], rest)) :
    splitOptions known (operand :: rest) = none
      ∨ ∃ options, splitOptions known (operand :: rest) = some (options, rest) := by
  rw [isOption.eq_def] at h
  split at h
  · next letter letters =>
    by_cases hend : letter = '-' ∧ letters = []
    · obtain ⟨rfl, rfl⟩ := hend
      exact .inr ⟨[], rfl⟩
    · rw [splitOptions]
      · split
        · exact .inr ⟨_, by rw [hrest]; rfl⟩
        · exact .inl rfl
      · simpa using hend
  · nomatch h

/-! ## Copies -/

/-- A copy into a directory at a path from the root is at such a path. -/
theorem copyTarget_isAbsolute {source target : Path} (hroot : target.isAbsolute = true) :
    (copyTarget fs source target).isAbsolute = true := by
  rw [copyTarget]
  split
  · split
    · rw [Path.isAbsolute, beq_iff_eq] at hroot ⊢
      rw [List.append_assoc, List.head?_append, hroot]
      rfl
    · exact hroot
  · exact hroot

/-- A file that was written to the place of a copy does not move that place. -/
theorem copyTarget_gains {place : Location} {content : List UInt8} {source target : Path}
    (hgains : Gains fs after place content)
    (hplace : after.find (copyTarget fs source target) = .ok place) :
    copyTarget after source target = copyTarget fs source target := by
  by_cases hdirectory : fs.isDirectory target = true
  · rw [copyTarget, copyTarget, if_pos hdirectory, if_pos (hgains.isDirectory hdirectory)]
  · have htarget : copyTarget fs source target = target := by
      rw [copyTarget, if_neg hdirectory]
    rw [htarget] at hplace ⊢
    obtain ⟨mode, hfile⟩ := hgains.holds
    have hafter : after.isDirectory target = false := by
      rw [FileSystem.isDirectory, hplace]
      simp only [FileSystem.isDirectoryAt, hfile]
      rfl
    rw [copyTarget, if_neg (by rw [hafter]; decide)]

/-- A copy that succeeded wrote the content of a file to its place. -/
theorem copyOne_writes {source target : Path} (hcopy : copyOne fs source target = some after) :
    ∃ content mode, fs.read source = .ok content
      ∧ fs.write (copyTarget fs source target) content mode = .ok after := by
  rw [copyOne] at hcopy
  split at hcopy
  · cases hcopy
  · next found hfind =>
    split at hcopy
    · -- the source is a file, and the copy is written unless it is the same file
      next content mode hat =>
      split at hcopy
      · cases hcopy
      · refine ⟨content, mode, ?_, ?_⟩
        · rw [FileSystem.read, hfind]
          simp only [hat]
        · cases hwrite : fs.write (copyTarget fs source target) content mode with
          | error e => rw [hwrite] at hcopy; cases hcopy
          | ok written =>
            rw [hwrite] at hcopy
            exact congrArg _ (Option.some.inj hcopy)
    · cases hcopy

/-- After a copy to a path from the root, the source and the place of the copy read the same. -/
theorem copyOne_reads {source target : Path} (hroot : target.isAbsolute = true)
    (hcopy : copyOne fs source target = some after) :
    ∃ content, after.read source = .ok content
      ∧ after.read (copyTarget after source target) = .ok content := by
  obtain ⟨content, mode, hsource, hwrite⟩ := copyOne_writes hcopy
  obtain ⟨place, hgains, hplace⟩ := FileSystem.gains_of_write (copyTarget_isAbsolute hroot) hwrite
  refine ⟨content, ?_, ?_⟩
  · -- the source reads the same even where the copy was written over it
    rcases hgains.read hsource with hread | hread <;> exact hread
  · obtain ⟨kept, hfile⟩ := hgains.holds
    rw [copyTarget_gains hgains hplace, FileSystem.read, hplace]
    simp only [hfile]

/-- A target that was copied to names an entry: the copy, or the directory that it is in. -/
theorem names_of_copy {source target : Path} {content : List UInt8}
    (hread : fs.read (copyTarget fs source target) = .ok content) :
    ∃ named, fs.Names target named ∧ (fs.at? named).isSome = true := by
  by_cases hdirectory : fs.isDirectory target = true
  · rw [FileSystem.isDirectory] at hdirectory
    split at hdirectory
    · next place hfind =>
      rw [FileSystem.isDirectoryAt_iff] at hdirectory
      exact FileSystem.exists_names hfind (by rw [hdirectory]; rfl)
    · cases hdirectory
  · rw [copyTarget, if_neg hdirectory, FileSystem.read] at hread
    split at hread
    · cases hread
    · next place hfind =>
      split at hread
      · next hat => exact FileSystem.exists_names hfind (by rw [hat]; rfl)
      · cases hread
      · cases hread

/-- An option in the place of the source leaves `cp` one operand, where it needs two. -/
theorem cp_option {source target : List Char} (htarget : isOption target = false)
    (hoption : isOption source = true) : cp input [source, target] fs = answer 1 fs := by
  have hrest : splitOptions ['f', 'p'] [target] = some ([], [target]) :=
    splitOptions_operand _ htarget []
  rw [cp, withOptions]
  rcases splitOptions_option hoption hrest with hnone | ⟨options, hsome⟩
  · rw [hnone]
  · rw [hsome]
    rfl

/-- A copy of two operands is one copy. -/
theorem cp_operands {source target : List Char} (htarget : isOption target = false)
    (hoption : isOption source = false) :
    cp input [source, target] fs =
      match copyOne fs (pathOf source) (pathOf target) with
      | some after => answer 0 after
      | none => answer 1 fs := by
  have hsplit : splitOptions ['f', 'p'] [source, target] = some ([], [source, target]) := by
    rw [splitOptions_operand _ hoption, splitOptions_operand _ htarget]
    rfl
  rw [cp, withOptions, hsplit]
  rfl

/-- A file that `cp` copied to one target. -/
theorem copyOne_of_cp {source target : List Char} (htarget : isOption target = false)
    (hstatus : (cp input [source, target] fs).status = 0) :
    copyOne fs (pathOf source) (pathOf target) = some (cp input [source, target] fs).files := by
  cases hoption : isOption source with
  | true =>
    rw [cp_option htarget hoption] at hstatus
    nomatch hstatus
  | false =>
    rw [cp_operands htarget hoption] at hstatus ⊢
    cases hcopy : copyOne fs (pathOf source) (pathOf target) with
    | none =>
      rw [hcopy] at hstatus
      nomatch hstatus
    | some after => rfl

/-- There is room for the copy of a file: the target is no directory, it can be written, and it is
    neither the file itself nor a link that leads nowhere. -/
structure Room (fs : FileSystem) (source : Location) (target : Path) (place : Location) : Prop where
  noDirectory : fs.isDirectory target = false
  writable : fs.placeToWrite target = .ok place
  apart : fs.find target ≠ .ok source
  noDangling : isDangling fs target = false

/-- Where there is room for it, a copy succeeds, with the bits of the source for a new file. -/
theorem copyOne_of_room {source target : Path} {file place : Location} {content : List UInt8}
    {mode : Nat} (hfind : fs.find source = .ok file)
    (hfile : fs.at? file = some (.file content mode)) (hroom : Room fs file target place) :
    copyOne fs source target = some (fs.putFile place content mode) := by
  have htarget : copyTarget fs source target = target := by
    rw [copyTarget, if_neg (by simp [hroom.noDirectory])]
  have happart : ((fs.find target).toOption == some file) = false := by
    rw [beq_eq_false_iff_ne]
    exact fun hsame => hroom.apart (toOption_eq_some_iff.mp hsame)
  rw [copyOne, htarget, hfind]
  simp only [hfile, happart, hroom.noDangling, Bool.or_false, Bool.false_eq_true, if_false]
  rw [FileSystem.write, hroom.writable]
  rfl

/-! ## Removal -/

/-- A forced removal of an operand takes away what stands at a location. -/
structure Removes (fs : FileSystem) (operand : List Char) (place : Location) : Prop where
  isOperand : isOption operand = false
  names : fs.Names (pathOf operand) place
  noSlash : Path.endsInSlash (pathOf operand).bytes = false

/-- The second file system is the first one without what an operand names. -/
structure Loses (before after : FileSystem) (operand : List Char) : Prop where
  gone : ∀ place, Removes before operand place → after.at? place = none
  kept : ∀ place, ¬ Removes before operand place → after.at? place = before.at? place

theorem loses_refl {operand : List Char} (hnot : ∀ place, ¬ Removes fs operand place) :
    Loses fs fs operand :=
  ⟨fun place h => absurd h (hnot place), fun _ _ => rfl⟩

/-- One operand of a forced removal. -/
theorem loses_of_removeOne {operand : List Char} (hoperand : isOption operand = false)
    (hremove : removeOne true false fs operand = some after) : Loses fs after operand := by
  rw [removeOne] at hremove
  split at hremove
  · next e hlookUp =>
    have hsame : fs = after := by
      split at hremove
      · exact Option.some.inj hremove
      · nomatch hremove
    obtain rfl := hsame
    refine loses_refl ?_
    rintro place ⟨-, ⟨slash, hnames⟩, -⟩
    rw [hlookUp] at hnames
    nomatch hnames
  · next hlookUp =>
    obtain rfl := Option.some.inj hremove
    refine loses_refl ?_
    rintro place ⟨-, ⟨slash, hnames⟩, -⟩
    rw [hlookUp] at hnames
    nomatch hnames
  · next named slash hlookUp =>
    -- the operand names an entry: a directory is refused, and a slash after another entry is
    -- forgiven
    have hnamed : fs.Names (pathOf operand) named := ⟨slash, hlookUp⟩
    split at hremove
    · simp at hremove
    · next hdirectory =>
      split at hremove
      · next hslash =>
        obtain rfl := Option.some.inj hremove
        refine loses_refl fun place h => ?_
        rw [h.noSlash] at hslash
        nomatch hslash
      · next hslash =>
        have hroot : named ≠ [] := by
          rintro rfl
          simp at hdirectory
        rw [FileSystem.remove, hlookUp] at hremove
        simp only [if_neg hdirectory] at hremove
        obtain rfl := Option.some.inj hremove
        constructor
        · intro place h
          rw [FileSystem.at?_filter_ne fs hroot, if_pos (h.names.unique hnamed)]
        · intro place h
          have hother : place ≠ named := by
            rintro rfl
            exact h ⟨hoperand, hnamed, by simpa using hslash⟩
          rw [FileSystem.at?_filter_ne fs hroot, if_neg hother]

theorem splitOptions_force (operand : List Char) :
    splitOptions ['f', 'r', 'R'] ["-f".toList, operand]
      = (splitOptions ['f', 'r', 'R'] [operand]).map fun (options, operands) =>
          ('f' :: options, operands) := rfl

/-- A forced removal of an option has nothing to remove. -/
theorem files_rm_option {operand : List Char} (hoption : isOption operand = true) :
    (rm input ["-f".toList, operand] fs).files = fs := by
  rw [rm, withOptions, splitOptions_force]
  rcases @splitOptions_option _ _ hoption [] rfl with hnone | ⟨options, hsome⟩
  · rw [hnone]
    rfl
  · rw [hsome]
    rfl

/-- A forced removal of one operand is one removal. -/
theorem rm_operand {operand : List Char} (hoption : isOption operand = false) :
    rm input ["-f".toList, operand] fs = eachOperand (removeOne true false) fs [operand] := by
  rw [rm, withOptions, splitOptions_force, splitOptions_operand _ hoption []]
  rfl

/-- An operand that is taken for an option removes nothing. -/
theorem not_removes_option {operand : List Char} (hoption : isOption operand = true)
    (place : Location) : ¬ Removes fs operand place := by
  intro h
  rw [h.isOperand] at hoption
  nomatch hoption

/-- A forced removal that succeeded took away what the operand names, and nothing else. -/
theorem loses_of_rm {operand : List Char}
    (hstatus : (rm input ["-f".toList, operand] fs).status = 0) :
    Loses fs (rm input ["-f".toList, operand] fs).files operand := by
  cases hoption : isOption operand with
  | true =>
    rw [files_rm_option hoption]
    exact loses_refl (not_removes_option hoption)
  | false =>
    rw [rm_operand hoption, eachOperand] at hstatus ⊢
    cases hremove : removeOne true false fs operand with
    | none => rw [hremove] at hstatus; nomatch hstatus
    | some after => exact loses_of_removeOne hoption hremove

/-- An operand is removed, unless it names a directory. -/
theorem removeOne_of_removes {operand : List Char} {place : Location} (h : Removes fs operand place)
    (hfile : fs.isDirectoryAt place = false) :
      ∃ after, removeOne true false fs operand = some after := by
  obtain ⟨slash, hnames⟩ := h.names
  have hremove : fs.remove (pathOf operand)
      = .ok { fs with entries := fs.entries.filter fun e => e.1 != place } := by
    rw [FileSystem.remove, hnames]
    simp only [hfile, Bool.false_eq_true, if_false]
  refine ⟨{ fs with entries := fs.entries.filter fun e => e.1 != place }, ?_⟩
  rw [removeOne, hnames, hremove]
  simp only [hfile, h.noSlash, Bool.false_eq_true, if_false]
  rfl

/-- A forced removal that failed changed nothing. -/
theorem files_rm_failed {operand : List Char}
    (hstatus : (rm input ["-f".toList, operand] fs).status ≠ 0) :
    (rm input ["-f".toList, operand] fs).files = fs := by
  cases hoption : isOption operand with
  | true => exact files_rm_option hoption
  | false =>
    rw [rm_operand hoption, eachOperand] at hstatus ⊢
    cases hremove : removeOne true false fs operand with
    | none => rfl
    | some after =>
      rw [hremove] at hstatus
      exact absurd rfl hstatus

/-- A file that the operand names is gone. -/
theorem at?_rm_removed {operand : List Char} {place : Location} (h : Removes fs operand place)
    (hfile : fs.isDirectoryAt place = false) :
    (rm input ["-f".toList, operand] fs).files.at? place = none := by
  obtain ⟨after, hremove⟩ := removeOne_of_removes h hfile
  have hrm : (rm input ["-f".toList, operand] fs).files = after := by
    rw [rm_operand h.isOperand, eachOperand, hremove]
    rfl
  rw [hrm]
  exact (loses_of_removeOne h.isOperand hremove).gone place h

/-- All that it does not name is as before. -/
theorem at?_rm_kept {operand : List Char} {place : Location} (h : ¬ Removes fs operand place) :
    (rm input ["-f".toList, operand] fs).files.at? place = fs.at? place := by
  by_cases hstatus : (rm input ["-f".toList, operand] fs).status = 0
  · exact (loses_of_rm hstatus).kept place h
  · rw [files_rm_failed hstatus]

end Host

end ProxyTrust
