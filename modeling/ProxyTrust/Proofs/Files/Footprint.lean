/-
  Which places an operation may have changed.

  1. **Above** — `Path.Above q p` says that the text of `p` goes over `q` before its last name.

  2. **One directory** — what `makeDirectory` does where it succeeds: one new directory, found
     under its path.  `makeDirectories_rel` carries any relation from one directory to a whole
     chain of them, so that every later statement about a chain is one about a single directory,
     with reflexivity and transitivity.

  3. **Furnishing** — `Furnished before after` says that directories were added and nothing else.

  4. **Footprints** — `Touches files before after` says that every place is as it was, or one of
     the files leads to it, or it is a new directory above one of them.  Writing a file and making
     the directories above it have the footprint of that file, and footprints follow each other
     (`Touches.trans`).  That a file leads to the place is said of the files as they are
     afterwards; this is why growth is part of a footprint, for a path that led to a place still
     does.
-/
import ProxyTrust.Proofs.Files.Parent

namespace ProxyTrust

namespace Path

/-! ## Above -/

variable {p q above : Path}

/-- The path goes over another one before its last name. -/
structure Above (q p : Path) : Prop where
  front : q.bytes <+: p.bytes
  names : ∃ rest, rest ≠ [] ∧ components p.bytes = components q.bytes ++ rest

/-- What is above a path that is above another one is above that one too. -/
theorem Above.trans (h : Above above q) (hq : Above q p) : Above above p := by
  obtain ⟨rest, hrest, hnames⟩ := h.names
  obtain ⟨later, hlater, hqnames⟩ := hq.names
  refine ⟨h.front.trans hq.front, rest ++ later, List.append_ne_nil_of_left_ne_nil hrest later, ?_⟩
  rw [hqnames, hnames, List.append_assoc]

theorem Above.ne_nil (h : Above q p) (hne : q.bytes ≠ []) : p.bytes ≠ [] := by
  intro hnil
  have hfront := h.front
  rw [hnil] at hfront
  exact hne (List.prefix_nil.mp hfront)

/-- The parent of a path is above it, unless its text is empty. -/
theorem above_of_parent? (h : p.parent? = some above) (hne : above.bytes ≠ []) : Above above p :=
  have hspec := parent?_spec h hne
  ⟨hspec.1, hspec.2⟩

end Path

namespace FileSystem

open ProxyTrust.Path (Above)

variable {fs before between after : FileSystem} {place parent : Location} {name : Name} {p q : Path}
  {files : List Path}

/-- The paths on the way up are the path and those above it. -/
theorem mem_upwards {fuel : Nat} (hmem : q ∈ upwards fuel p) (hne : q.bytes ≠ []) :
    q = p ∨ Above q p := by
  -- the empty path ends the way up, and no other path has it above
  induction fuel generalizing p with
  | zero => nomatch hmem
  | succ fuel ih =>
    rw [upwards] at hmem
    rcases List.mem_cons.mp hmem with rfl | hmem
    · exact .inl rfl
    · split at hmem
      · next above hparent =>
        rcases ih hmem with rfl | hq
        · exact .inr (Path.above_of_parent? hparent hne)
        · exact .inr (hq.trans (Path.above_of_parent? hparent (hq.ne_nil hne)))
      · nomatch hmem

/-! ## One directory -/

/-- A walk that ended at a free name leads to the directory that was made there. -/
theorem Leads.made {last : Last} {links : Nat} {here : Location} {names : List Name}
    {slash found : Bool} {spot : Spot} (h : Leads before last links here names slash spot)
    (hspot : spot = .absent parent name found) (hgrows : Grows before after)
    (hdirectory : after.isDirectoryAt (name :: parent) = true) :
    Leads after .target links here names slash (.there (name :: parent) found) := by
  -- only the last step is another one now: the name that was free is that of an entry
  induction h with
  | done => nomatch hspot
  | itself => nomatch hspot
  | dot hstep _ ih => exact .dot (hgrows.directory hstep) (ih hspot)
  | dotDot hstep _ ih => exact .dotDot (hgrows.directory hstep) (ih hspot)
  | absent htakes _ =>
    obtain ⟨rfl, rfl, rfl⟩ := Spot.absent.inj hspot
    exact .entry ((htakes.grows hgrows).of_ne_made (by decide)) (isDirectoryAt_iff.mp hdirectory)
      (fun _ heq => nomatch heq) .done
  | link htakes hat _ _ ih =>
    exact .link ((htakes.grows hgrows).of_ne_made (by decide)) (hgrows.link hat)
      (fun hall => nomatch hall.2) (ih hspot)
  | entry htakes hat hentry _ ih =>
    obtain ⟨later, hlater, hnoLink⟩ := hgrows.entry hat hentry
    exact .entry ((htakes.grows hgrows).of_ne_made (by decide)) hlater hnoLink (ih hspot)

/-- A directory that is made is new, is found under its path, and is all that changes. -/
theorem makeDirectory_spec (hmake : before.makeDirectory p = .ok after) :
    ∃ place, before.at? place = none ∧ after.at? place = some .directory ∧ after.find p = .ok place
      ∧ ∀ other, other ≠ place → after.at? other = before.at? other := by
  have hgrows := grows_makeDirectory hmake
  obtain ⟨parent, name, slash, hlookUp, rfl⟩ := makeDirectory_eq_ok hmake
  obtain ⟨hpath, hleads⟩ := lookUpFor_eq_ok_iff.mp hlookUp
  have hput := at?_put before (List.cons_ne_nil name parent) Entry.directory
  have hat : (before.put (name :: parent) .directory).at? (name :: parent) = some .directory := by
    rw [hput, if_pos rfl]
  refine ⟨name :: parent, (hleads.free rfl).2, hat, ?_, fun other hother => ?_⟩
  · have hdirectory := isDirectoryAt_iff.mpr hat
    refine find_eq_ok_iff.mpr ⟨slash, lookUpFor_eq_ok_iff.mpr ⟨hpath, ?_⟩, fun _ => hdirectory⟩
    rw [hgrows.startOf_eq]
    exact hleads.made rfl hgrows hdirectory
  · rw [hput, if_neg hother]

/-- A directory that was made is found under its path. -/
theorem isDirectory_of_makeDirectory (hmake : before.makeDirectory p = .ok after) :
    after.isDirectory p = true := by
  obtain ⟨place, -, hat, hfind, -⟩ := makeDirectory_spec hmake
  rw [isDirectory, hfind]
  exact isDirectoryAt_iff.mpr hat

/-- Where a directory cannot be made, that is forgiven exactly if the path leads to one. -/
theorem forgiven_iff {fs : FileSystem} {cause : IoError} {outcome : Except IoError Unit}
    (h : ((if fs.isDirectory p then .ok () else .error cause, fs)
        : Except IoError Unit × FileSystem) = (outcome, after)) :
    outcome = .ok () ↔ after.isDirectory p = true := by
  obtain ⟨houtcome, rfl⟩ := Prod.mk.inj h
  rw [← houtcome]
  split
  · next hdirectory => exact iff_of_true rfl hdirectory
  · next hdirectory => exact iff_of_false (fun heq => by cases heq) hdirectory

/-- Where a directory was made with those above it, its path leads to it. -/
theorem isDirectory_of_makeDirectories (hne : p.bytes ≠ [])
    (hmake : before.makeDirectories p = (.ok (), after)) : after.isDirectory p = true := by
  rw [makeDirectories, upwards, makeChain, if_neg hne] at hmake
  split at hmake
  · next hmade =>
    obtain ⟨-, rfl⟩ := Prod.mk.inj hmake
    exact isDirectory_of_makeDirectory hmade
  · split at hmake
    · split at hmake
      · cases (Prod.mk.inj hmake).1
      · split at hmake
        · next hmade =>
          obtain ⟨-, rfl⟩ := Prod.mk.inj hmake
          exact isDirectory_of_makeDirectory hmade
        · exact (forgiven_iff hmake).mp rfl
    · exact (forgiven_iff hmake).mp rfl

/-- Whatever holds between two file systems when one directory is made holds when a directory is
    made with those above it. -/
theorem makeDirectories_rel {R : FileSystem → FileSystem → Prop} (hrefl : ∀ fs, R fs fs)
    (htrans : ∀ {before between after}, R before between → R between after → R before after)
    (hmake : ∀ q, q = p ∨ Above q p →
      ∀ before after, before.makeDirectory q = .ok after → R before after)
    (fs : FileSystem) : R fs (fs.makeDirectories p).2 :=
  makeChain_rel hrefl htrans (fun q hq hne => hmake q (mem_upwards hq hne)) fs

/-- Making directories does not change which permission bits new files get. -/
theorem umask_makeDirectories (fs : FileSystem) (p : Path) :
    (fs.makeDirectories p).2.umask = fs.umask := by
  refine makeDirectories_rel (R := fun before after => after.umask = before.umask) (fun _ => rfl)
    (fun h hlater => hlater.trans h) ?_ fs
  intro q _ before after hmake
  obtain ⟨parent, name, slash, -, rfl⟩ := makeDirectory_eq_ok hmake
  rfl

/-! ## Furnishing -/

/-- Directories were added, in free places, and nothing else changed. -/
def Furnished (before after : FileSystem) : Prop :=
  ∀ place, after.at? place = before.at? place
    ∨ (before.at? place = none ∧ after.at? place = some .directory)

theorem Furnished.refl (fs : FileSystem) : Furnished fs fs := fun _ => .inl rfl

/-- What stood somewhere stays as it is. -/
theorem Furnished.at? (h : Furnished before after) {entry : Entry}
    (hat : before.at? place = some entry) : after.at? place = some entry := by
  rcases h place with heq | ⟨hnone, -⟩
  · rw [heq, hat]
  · rw [hat] at hnone
    nomatch hnone

/-- What is free was free before. -/
theorem Furnished.free (h : Furnished before after) (hfree : after.at? place = none) :
    before.at? place = none := by
  rcases h place with heq | ⟨hnone, -⟩
  · rw [← heq, hfree]
  · exact hnone

/-- What is no directory was there before. -/
theorem Furnished.at?_eq (h : Furnished before after) (hplace : after.at? place ≠ some .directory) :
    after.at? place = before.at? place := by
  rcases h place with heq | ⟨-, hdirectory⟩
  · exact heq
  · exact absurd hdirectory hplace

/-- Directories that are added one after the other are added together. -/
theorem Furnished.trans (h : Furnished before between) (hlater : Furnished between after) :
    Furnished before after := by
  intro place
  rcases h place with heq | ⟨hnone, hdirectory⟩
  · rw [← heq]
    exact hlater place
  · exact .inr ⟨hnone, hlater.at? hdirectory⟩

/-- A file was there before the directories were. -/
theorem Furnished.file_iff (h : Furnished before after) {content : List UInt8} {mode : Nat} :
    after.at? place = some (.file content mode) ↔ before.at? place = some (.file content mode) := by
  rcases h place with heq | ⟨hnone, hdirectory⟩
  · rw [heq]
  · rw [hnone, hdirectory]
    simp

theorem furnished_makeDirectory (hmake : before.makeDirectory p = .ok after) :
    Furnished before after := by
  obtain ⟨made, hfree, hat, -, hothers⟩ := makeDirectory_spec hmake
  intro place
  by_cases hplace : place = made
  · subst hplace
    exact .inr ⟨hfree, hat⟩
  · exact .inl (hothers place hplace)

/-- Making directories adds directories and nothing else, also where it fails. -/
theorem furnished_makeDirectories (fs : FileSystem) (p : Path) :
    Furnished fs (fs.makeDirectories p).2 :=
  makeDirectories_rel Furnished.refl Furnished.trans
    (fun _ _ _ _ => furnished_makeDirectory) fs

/-! ## Footprints -/

/-- What may have happened to a place where these files were written. -/
inductive Touched (files : List Path) (before after : FileSystem) (place : Location) : Prop
  | kept (hkept : after.at? place = before.at? place)
  /-- One of the files leads there, and nothing or a file was there before. -/
  | file {p : Path} (hp : p ∈ files) (hfind : after.find p = .ok place)
      (hbefore : before.at? place = none ∨ ∃ old mode, before.at? place = some (.file old mode))
      (hafter : ∃ content mode, after.at? place = some (.file content mode))
  /-- It is a directory above one of the files, and was missing. -/
  | directory {p q : Path} (hp : p ∈ files) (habove : Above q p) (hfind : after.find q = .ok place)
      (hbefore : before.at? place = none) (hafter : after.at? place = some .directory)

/-- Nothing changed but these files and missing directories above them. -/
structure Touches (files : List Path) (before after : FileSystem) : Prop where
  grows : Grows before after
  touched : ∀ place, Touched files before after place

theorem Touches.refl (files : List Path) (fs : FileSystem) : Touches files fs fs :=
  ⟨.refl fs, fun _ => .kept rfl⟩

/-- A place that some files touch is touched by more of them. -/
theorem Touched.mono {more : List Path} (h : Touched files before after place)
    (hmore : files ⊆ more) : Touched more before after place := by
  cases h with
  | kept hkept => exact .kept hkept
  | file hp hfind hbefore hafter => exact .file (hmore hp) hfind hbefore hafter
  | directory hp habove hfind hbefore hafter =>
    exact .directory (hmore hp) habove hfind hbefore hafter

theorem Touches.mono {more : List Path} (h : Touches files before after) (hmore : files ⊆ more) :
    Touches more before after :=
  ⟨h.grows, fun place => (h.touched place).mono hmore⟩

/-- What was touched first and then touched again was touched. -/
theorem Touched.trans (h : Touched files before between place)
    (hlater : Touched files between after place) (hgrows : Grows between after) :
    Touched files before after place := by
  -- a path that led to the place still does, so that only the entry itself has to be looked at
  cases hlater with
  | kept hkept =>
    cases h with
    | kept hfirst => exact .kept (hkept.trans hfirst)
    | file hp hfind hbefore hafter => exact .file hp (hgrows.find hfind) hbefore (by rwa [hkept])
    | directory hp habove hfind hbefore hafter =>
      exact .directory hp habove (hgrows.find hfind) hbefore (by rwa [hkept])
  | file hp hfind hbetween hafter =>
    cases h with
    | kept hfirst => exact .file hp hfind (by rwa [← hfirst]) hafter
    | file _ _ hbefore _ => exact .file hp hfind hbefore hafter
    | directory _ _ _ hbefore _ => exact .file hp hfind (.inl hbefore) hafter
  | directory hp habove hfind hbetween hafter =>
    cases h with
    | kept hfirst => exact .directory hp habove hfind (by rwa [← hfirst]) hafter
    | file _ _ _ hfile =>
      obtain ⟨content, mode, hfile⟩ := hfile
      rw [hbetween] at hfile
      nomatch hfile
    | directory _ _ _ hbefore _ => exact .directory hp habove hfind hbefore hafter

/-- Footprints follow each other: what is touched twice was touched by one of the files. -/
theorem Touches.trans (h : Touches files before between) (hlater : Touches files between after) :
    Touches files before after :=
  ⟨h.grows.trans hlater.grows, fun place =>
    (h.touched place).trans (hlater.touched place) hlater.grows⟩

/-- A file that none of the written ones leads to is there afterwards only as it was before. -/
theorem Touches.file_kept (h : Touches files before after) {content : List UInt8} {mode : Nat}
    (hat : after.at? place = some (.file content mode))
    (hother : ∀ p ∈ files, after.find p ≠ .ok place) :
      before.at? place = some (.file content mode) := by
  cases h.touched place with
  | kept hkept => rw [← hkept, hat]
  | file hp hfind => exact absurd hfind (hother _ hp)
  | directory _ _ _ _ hafter =>
    rw [hat] at hafter
    nomatch hafter

/-- Making directories above a file touches only directories above it. -/
theorem touches_makeDirectories (hp : p ∈ files) (habove : Above q p) (fs : FileSystem) :
    Touches files fs (fs.makeDirectories q).2 := by
  refine makeDirectories_rel (Touches.refl files) Touches.trans ?_ fs
  intro made hmade before after hmake
  have hmadeAbove : Above made p := by
    rcases hmade with rfl | hmade
    · exact habove
    · exact hmade.trans habove
  obtain ⟨new, hfree, hat, hfind, hothers⟩ := makeDirectory_spec hmake
  refine ⟨grows_makeDirectory hmake, fun place => ?_⟩
  by_cases hplace : place = new
  · subst hplace
    exact .directory hp hmadeAbove hfind hfree hat
  · exact .kept (hothers place hplace)

/-- Writing a file touches the place that its path leads to, and nothing else. -/
theorem touches_write {content : List UInt8} {mode : Nat} (htree : before.IsTree) (hp : p ∈ files)
    (hwrite : before.write p content mode = .ok after) : Touches files before after := by
  obtain ⟨place, hgains, hfind, hstanding⟩ := htree.write hwrite
  refine ⟨hgains.grows hstanding, fun other => ?_⟩
  by_cases hother : other = place
  · subst hother
    exact .file hp hfind hgains.writable ⟨content, hgains.holds⟩
  · exact .kept (hgains.others other hother)

end FileSystem

end ProxyTrust
