/-
  What a file that is written changes for others.

  1. **Gains** — `Gains before after place content` says that two file systems differ in one file:
     it has this content afterwards, and before it was free or a file as well.

  2. **Walks** — every walk that succeeded before succeeds afterwards, and ends at the same spot
     unless that was the free one (`Leads.gains`).  A walk never goes through a file, and a free
     name is where it ends; so what is written is met at the last name or not at all.

  3. **Reading** — a file that is written can be read under its path, whatever could be read
     before can still be read, and a path that leads to a file can be written to.

  4. **Writing again** — the second of two files at one place takes the place of the first, and
     keeps its bits.
-/
import ProxyTrust.Proofs.Files.Walk

namespace ProxyTrust.FileSystem

variable {before after : FileSystem} {place : Location} {content : List UInt8}

/-! ## Gains -/

/-- The second file system is the first one with this content in the file at a location. -/
structure Gains (before after : FileSystem) (place : Location) (content : List UInt8) : Prop where
  home_eq : after.home = before.home
  holds : ∃ mode, after.at? place = some (.file content mode)
  others : ∀ other, other ≠ place → after.at? other = before.at? other
  /-- Nothing or a file was in the way. -/
  writable : before.at? place = none ∨ ∃ old mode, before.at? place = some (.file old mode)

/-- No directory is in the way of a file. -/
theorem ne_directory_of_writable {fs : FileSystem}
    (h : fs.at? place = none ∨ ∃ old mode, fs.at? place = some (.file old mode)) :
    fs.at? place ≠ some .directory := by
  intro hat
  rcases h with hfree | ⟨old, mode, hfile⟩
  · rw [hfree] at hat
    cases hat
  · rw [hfile] at hat
    cases hat

theorem Gains.ne_root (h : Gains before after place content) : place ≠ [] := by
  rintro rfl
  exact ne_directory_of_writable h.writable rfl

theorem Gains.startOf_eq (h : Gains before after place content) (p : Path) :
    after.startOf p = before.startOf p := by
  rw [startOf, startOf, h.home_eq]

/-- No directory comes or goes. -/
theorem Gains.isDirectoryAt_eq (h : Gains before after place content) (other : Location) :
    after.isDirectoryAt other = before.isDirectoryAt other := by
  by_cases hother : other = place
  · subst hother
    obtain ⟨mode, hat⟩ := h.holds
    rw [isDirectoryAt, isDirectoryAt, hat]
    rcases h.writable with hfree | ⟨old, oldMode, hfile⟩
    · rw [hfree]; rfl
    · rw [hfile]; rfl
  · rw [isDirectoryAt, isDirectoryAt, h.others other hother]

/-- A link stays where it is. -/
theorem Gains.link (h : Gains before after place content) {other : Location} {target : Path}
    (hat : before.at? other = some (.link target)) : after.at? other = some (.link target) := by
  have hother : other ≠ place := by
    rintro rfl
    rcases h.writable with hfree | ⟨old, mode, hfile⟩
    · rw [hat] at hfree; nomatch hfree
    · rw [hat] at hfile; nomatch hfile
  rw [h.others other hother, hat]

/-- Where a file was there before, the first file system is the second one with the old content. -/
theorem Gains.symm (h : Gains before after place content) {old : List UInt8} {mode : Nat}
    (hat : before.at? place = some (.file old mode)) : Gains after before place old := by
  obtain ⟨newMode, hfile⟩ := h.holds
  exact ⟨h.home_eq.symm, ⟨mode, hat⟩, fun other hother => (h.others other hother).symm,
    .inr ⟨content, newMode, hfile⟩⟩

/-! ## Walks -/

/-- A spot when a file was put at a location. -/
def Spot.filled (place : Location) : Spot → Spot
  | .there here slash => .there here slash
  | .absent parent name slash =>
    if name :: parent = place then .there place slash else .absent parent name slash

variable {last : Last} {links : Nat} {here : Location} {name : Name} {names rest : List Name}
  {slash : Bool} {spot : Spot}

theorem Takes.gains (h : Takes before last slash here name rest)
    (hgains : Gains before after place content) : Takes after last slash here name rest :=
  ⟨by rw [hgains.isDirectoryAt_eq]; exact h.directory, h.ne_dot, h.ne_dotDot, h.allowed, h.short⟩

/-- A walk ends where it ended before, or at the new file. -/
theorem Leads.gains (h : Leads before last links here names slash spot)
    (hgains : Gains before after place content) :
    Leads after last links here names slash (spot.filled place) := by
  obtain ⟨mode, hfile⟩ := hgains.holds
  have hnoLink : ∀ target, Entry.file content mode ≠ .link target := fun _ heq => nomatch heq
  -- only a name that was free or that of a file can be the new one, and both are taken as entries
  -- now
  induction h with
  | done => exact .done
  | dot hdirectory _ ih => exact .dot (by rw [hgains.isDirectoryAt_eq]; exact hdirectory) ih
  | dotDot hdirectory _ ih => exact .dotDot (by rw [hgains.isDirectoryAt_eq]; exact hdirectory) ih
  | @absent _ here name _ htakes hat =>
    rw [Spot.filled]
    split
    · next hplace =>
      obtain rfl := hplace
      exact .entry (htakes.gains hgains) hfile hnoLink .done
    · next hplace =>
      exact .absent (htakes.gains hgains) (by rw [hgains.others _ hplace, hat])
  | itself htakes hat hlast => exact .itself (htakes.gains hgains) (hgains.link hat) hlast
  | link htakes hat hlast _ ih => exact .link (htakes.gains hgains) (hgains.link hat) hlast ih
  | @entry _ here name _ _ _ _ htakes hat hentry _ ih =>
    by_cases hplace : name :: here = place
    · exact .entry (htakes.gains hgains) (by rw [hplace]; exact hfile) hnoLink ih
    · exact .entry (htakes.gains hgains) (by rw [hgains.others _ hplace]; exact hat) hentry ih

/-! ## Reading -/

/-- A path leads to an entry that is there, and to a directory if a slash says so. -/
theorem find_eq_ok_iff {fs : FileSystem} {p : Path} :
    fs.find p = .ok place ↔ ∃ slash, fs.lookUp p = .ok (.there place slash)
      ∧ (slash = true → fs.isDirectoryAt place = true) := by
  rw [find]
  split
  · next hlookUp => simp [hlookUp]
  · next hlookUp => simp [hlookUp]
  · next found slash hlookUp =>
    rw [hlookUp]
    constructor
    · intro h
      split at h
      · nomatch h
      · next hslash =>
        obtain rfl := Except.ok.inj h
        exact ⟨slash, rfl, by simpa using hslash⟩
    · rintro ⟨slash', hspot, hslash⟩
      obtain ⟨rfl, rfl⟩ := Spot.there.inj (Except.ok.inj hspot)
      rw [if_neg (by simpa using hslash)]

/-- A path that leads to a file is read as its bytes. -/
theorem read_of_find {fs : FileSystem} {p : Path} {mode : Nat} (hfind : fs.find p = .ok place)
    (hfile : fs.at? place = some (.file content mode)) : fs.read p = .ok content := by
  rw [read, hfind]
  simp only [hfile]

/-- A path that led to a place still leads there. -/
theorem Gains.find (h : Gains before after place content) {p : Path} {other : Location}
    (hfind : before.find p = .ok other) : after.find p = .ok other := by
  obtain ⟨slash, hlookUp, hslash⟩ := find_eq_ok_iff.mp hfind
  obtain ⟨hpath, hleads⟩ := lookUpFor_eq_ok_iff.mp hlookUp
  refine find_eq_ok_iff.mpr ⟨slash, lookUpFor_eq_ok_iff.mpr ⟨hpath, ?_⟩, ?_⟩
  · rw [h.startOf_eq]
    exact hleads.gains h
  · rw [h.isDirectoryAt_eq]
    exact hslash

/-- A file put in a place that was free or a file. -/
theorem gains_putFile {fs : FileSystem} {mode : Nat} (hdirectory : fs.isDirectoryAt place = false)
    (hlink : ∀ target, fs.at? place ≠ some (.link target)) :
    Gains fs (fs.putFile place content mode) place content := by
  have hplace : place ≠ [] := by
    rintro rfl
    simp at hdirectory
  -- the place was free, or there was a file; in a directory or a link nothing is written
  cases hat : fs.at? place with
  | none =>
    rw [putFile, hat]
    refine ⟨rfl, ⟨_, by rw [at?_put fs hplace, if_pos rfl]⟩, ?_, .inl hat⟩
    exact fun other hother => by rw [at?_put fs hplace, if_neg hother]
  | some entry =>
    cases entry with
    | file old kept =>
      rw [putFile, hat]
      refine ⟨rfl, ⟨kept, by rw [at?_put fs hplace, if_pos rfl]⟩, ?_, .inr ⟨old, kept, hat⟩⟩
      exact fun other hother => by rw [at?_put fs hplace, if_neg hother]
    | directory =>
      rw [isDirectoryAt_iff.mpr hat] at hdirectory
      nomatch hdirectory
    | link target => exact absurd hat (hlink target)

/-- A file is written exactly if there is a place for it. -/
theorem write_eq_ok_iff {p : Path} {asked : Nat} :
    before.write p content asked = .ok after
      ↔ ∃ place, before.placeToWrite p = .ok place
        ∧ before.putFile place content asked = after := by
  rw [write]
  cases before.placeToWrite p with
  | error e => simp
  | ok place => simp

/-- There is a place for a file only where its path can be followed. -/
theorem lookUpFor_of_placeToWrite {p : Path} (hplace : before.placeToWrite p = .ok place) :
    ∃ spot, before.lookUpFor .made p = .ok spot := by
  rw [placeToWrite] at hplace
  cases hlookUp : before.lookUpFor .made p with
  | error e => rw [hlookUp] at hplace; nomatch hplace
  | ok spot => exact ⟨spot, rfl⟩

/-- A file put where its path says is found under the path afterwards, where the walk over the
    path begins in a directory and all locations above that one are directories. -/
theorem gains_of_placeToWrite {p : Path}
    (hdirectory : before.isDirectoryAt (before.startOf p) = true)
    (hstanding : Standing before (before.startOf p)) (hplace : before.placeToWrite p = .ok place)
    (content : List UInt8) (asked : Nat) :
    Gains before (before.putFile place content asked) place content
      ∧ (before.putFile place content asked).find p = .ok place := by
  obtain ⟨spot, hlookUp⟩ := lookUpFor_of_placeToWrite hplace
  rw [placeToWrite, hlookUp] at hplace
  obtain ⟨hpath, hleads⟩ := lookUpFor_eq_ok_iff.mp hlookUp
  have hmakeable : Makeable before spot := hleads.makeable hstanding (.inl hdirectory)
  -- the walk that found the place leads to the file now
  have hfound (hgains : Gains before (before.putFile place content asked) place content)
      (hfilled : spot.filled place = .there place false) :
      (before.putFile place content asked).find p = .ok place := by
    refine find_eq_ok_iff.mpr ⟨false, lookUpFor_eq_ok_iff.mpr ⟨hpath, ?_⟩, fun h => nomatch h⟩
    rw [hgains.startOf_eq, ← hfilled]
    exact (hleads.gains hgains).target
  cases spot with
  | absent parent name slash =>
    obtain ⟨rfl, hfree⟩ := hmakeable
    obtain rfl := Except.ok.inj hplace
    have hgains : Gains before (before.putFile (name :: parent) content asked) (name :: parent)
        content := by
      refine gains_putFile ?_ (fun target => by simp [hfree])
      rw [isDirectoryAt, hfree]
      rfl
    exact ⟨hgains, hfound hgains (by rw [Spot.filled, if_pos rfl])⟩
  | there there slash =>
    rcases hmakeable with hdirectory | ⟨rfl, hlink⟩
    · simp [hdirectory] at hplace
    · by_cases hdirectory : before.isDirectoryAt there = true
      · simp [hdirectory] at hplace
      · simp only [if_neg hdirectory] at hplace
        obtain rfl := Except.ok.inj hplace
        have hgains : Gains before (before.putFile there content asked) there content :=
          gains_putFile (by simpa using hdirectory) hlink
        exact ⟨hgains, hfound hgains rfl⟩

/-- A file that is written under a path from the root is found there afterwards. -/
theorem gains_of_write {p : Path} {mode : Nat} (hroot : p.isAbsolute = true)
    (hwrite : before.write p content mode = .ok after) :
    ∃ place, Gains before after place content ∧ after.find p = .ok place := by
  have hstart : before.startOf p = [] := by rw [startOf, if_pos hroot]
  obtain ⟨place, hplace, rfl⟩ := write_eq_ok_iff.mp hwrite
  refine ⟨place, gains_of_placeToWrite ?_ ?_ hplace content mode⟩
  · rw [hstart]
    exact isDirectoryAt_root before
  · rw [hstart]
    trivial

/-! ## Permission bits -/

/-- The permission bits of a file once it is written: those that it has, or those asked for a new
    one as far as the mask leaves them. -/
def writtenMode (fs : FileSystem) (place : Location) (asked : Nat) : Nat :=
  match fs.at? place with
  | some (.file _ kept) => kept
  | _ => asked &&& (0o777 ^^^ (fs.umask &&& 0o777))

theorem writtenMode_congr {fs other : FileSystem} (hat : other.at? place = fs.at? place)
    (humask : other.umask = fs.umask) (asked : Nat) :
    other.writtenMode place asked = fs.writtenMode place asked := by
  rw [writtenMode, writtenMode, hat, humask]

theorem umask_putFile (fs : FileSystem) (place : Location) (content : List UInt8) (asked : Nat) :
    (fs.putFile place content asked).umask = fs.umask := by
  rw [putFile]
  split <;> rfl

/-- What was written stands where it was written, with the bits that a new file or an old one has.
    -/
theorem at?_putFile (fs : FileSystem) (hplace : place ≠ []) (content : List UInt8) (asked : Nat) :
    (fs.putFile place content asked).at? place
      = some (.file content (fs.writtenMode place asked)) := by
  rw [putFile, writtenMode]
  rcases fs.at? place with _ | ⟨old, kept⟩ | _ | _ <;> simp only [at?_put fs hplace, if_true]

/-- A path that leads to a file says where to write. -/
theorem placeToWrite_of_find {fs : FileSystem} {p : Path} {old : List UInt8} {mode : Nat}
    (hfind : fs.find p = .ok place) (hat : fs.at? place = some (.file old mode)) :
    fs.placeToWrite p = .ok place := by
  have hdirectory : ¬ fs.isDirectoryAt place = true := by
    rw [isDirectoryAt_iff, hat]
    exact fun heq => nomatch heq
  obtain ⟨slash, hlookUp, hslash⟩ := find_eq_ok_iff.mp hfind
  obtain rfl : slash = false := by
    cases slash with
    | false => rfl
    | true => exact absurd (hslash rfl) hdirectory
  obtain ⟨hpath, hleads⟩ := lookUpFor_eq_ok_iff.mp hlookUp
  have hmade : fs.lookUpFor .made p = .ok (.there place false) :=
    lookUpFor_eq_ok_iff.mpr ⟨hpath, (hleads.made_of_target rfl).2⟩
  rw [placeToWrite, hmade]
  simp only [if_neg hdirectory]

/-- A path that leads to a file can be written to, and the file keeps its permission bits. -/
theorem write_of_find {fs : FileSystem} {p : Path} {old : List UInt8} {mode : Nat}
    (hfind : fs.find p = .ok place) (hat : fs.at? place = some (.file old mode))
    (content : List UInt8) (asked : Nat) :
    ∃ after, fs.write p content asked = .ok after
      ∧ after.at? place = some (.file content mode) := by
  have hplace : place ≠ [] := by
    rintro rfl
    rw [at?_root] at hat
    nomatch hat
  refine ⟨fs.putFile place content asked,
    write_eq_ok_iff.mpr ⟨place, placeToWrite_of_find hfind hat, rfl⟩, ?_⟩
  rw [at?_putFile fs hplace, writtenMode, hat]

theorem put_put (fs : FileSystem) (place : Location) (entry : Entry) :
    (fs.put place entry).put place entry = fs.put place entry := by
  simp [put, List.filter_filter]

/-- A file that was put somewhere can be put there once more. -/
theorem putFile_putFile (fs : FileSystem) (hplace : place ≠ []) (content : List UInt8)
    (asked : Nat) : (fs.putFile place content asked).putFile place content asked
      = fs.putFile place content asked := by
  have hput : fs.putFile place content asked
      = fs.put place (.file content (fs.writtenMode place asked)) := by
    rw [putFile, writtenMode]
    rcases fs.at? place with _ | ⟨old, kept⟩ | _ | _ <;> rfl
  rw [hput, putFile, at?_put fs hplace, if_pos rfl]
  exact put_put fs place _

/-- A file that could be read can still be read, with its content or with the new one. -/
theorem Gains.read (h : Gains before after place content) {p : Path} {old : List UInt8}
    (hread : before.read p = .ok old) : after.read p = .ok old ∨ after.read p = .ok content := by
  rw [FileSystem.read] at hread
  cases hfind : before.find p with
  | error e => rw [hfind] at hread; nomatch hread
  | ok other =>
    rw [hfind] at hread
    rw [FileSystem.read, h.find hfind]
    by_cases hother : other = place
    · subst hother
      obtain ⟨mode, hfile⟩ := h.holds
      exact .inr (by simp [hfile])
    · refine .inl ?_
      simp only [h.others other hother]
      exact hread

/-- A path that led to a directory still does. -/
theorem Gains.isDirectory (h : Gains before after place content) {p : Path}
    (hdirectory : before.isDirectory p = true) : after.isDirectory p = true := by
  rw [FileSystem.isDirectory] at hdirectory
  cases hfind : before.find p with
  | error e => rw [hfind] at hdirectory; nomatch hdirectory
  | ok other =>
    rw [hfind] at hdirectory
    rw [FileSystem.isDirectory, h.find hfind]
    simp only [h.isDirectoryAt_eq]
    exact hdirectory

end ProxyTrust.FileSystem
