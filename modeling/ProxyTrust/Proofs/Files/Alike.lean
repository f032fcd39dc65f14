/-
  What does not depend on what files hold.

  1. **Alike** — `Alike fs other` says that two file systems have the same entries, but for the
     bytes in their files.

  2. **Looking up** — a path leads to the same place in both, or fails for the same reason.  All
     of it comes down to one lemma about what stands at a place (`Alike.at?`): a walk asks for the
     kind of an entry and for the target of a link, and bytes are neither.

  3. **Operations** — making directories and writing a file ends the same way in both and leaves
     them alike.  `AlikeAfter` and `AlikeEnd` say so of one step and of a row of steps, so that
     the lemmas can be put together.  An operation made of these has read no file.
-/
import ProxyTrust.Proofs.Files.Walk

namespace ProxyTrust

/-- An entry without the bytes of a file. -/
def Entry.outline : Entry → Entry
  | .file _ mode => .file [] mode
  | .directory => .directory
  | .link target => .link target

namespace FileSystem

/-! ## Alike -/

/-- Two file systems are the same but for the bytes in their files. -/
structure Alike (fs other : FileSystem) : Prop where
  home_eq : other.home = fs.home
  umask_eq : other.umask = fs.umask
  outline : ∀ place, (other.at? place).map Entry.outline = (fs.at? place).map Entry.outline

variable {fs other : FileSystem} {place : Location} {p : Path} {last : Last}

/-- What stands at a place in both of them. -/
inductive AlikeAt : Option Entry → Option Entry → Prop
  | none : AlikeAt .none .none
  | file {content otherContent : List UInt8} {mode : Nat} :
      AlikeAt (some (.file content mode)) (some (.file otherContent mode))
  | directory : AlikeAt (some .directory) (some .directory)
  | link {target : Path} : AlikeAt (some (.link target)) (some (.link target))

/-- At every place the two have the same entry, but for the bytes of a file. -/
theorem Alike.at? (h : Alike fs other) (place : Location) :
    AlikeAt (fs.at? place) (other.at? place) := by
  have houtline := h.outline place
  cases hat : fs.at? place with
  | none =>
    rw [hat, Option.map_none, Option.map_eq_none_iff] at houtline
    rw [houtline]
    exact .none
  | some entry =>
    rw [hat] at houtline
    obtain ⟨found, hfound, hsame⟩ := Option.map_eq_some_iff.mp houtline
    rw [hfound]
    cases entry with
    | file content mode =>
      cases found with
      | file =>
        obtain ⟨-, rfl⟩ := Entry.file.inj hsame
        exact .file
      | directory => nomatch hsame
      | link => nomatch hsame
    | directory =>
      cases found with
      | directory => exact .directory
      | file => nomatch hsame
      | link => nomatch hsame
    | link target =>
      cases found with
      | link =>
        obtain rfl := Entry.link.inj hsame
        exact .link
      | file => nomatch hsame
      | directory => nomatch hsame

theorem Alike.isDirectoryAt_eq (h : Alike fs other) (place : Location) :
    other.isDirectoryAt place = fs.isDirectoryAt place := by
  have hat := h.at? place
  rw [isDirectoryAt, isDirectoryAt]
  generalize fs.at? place = entry at hat ⊢
  generalize other.at? place = found at hat ⊢
  cases hat <;> rfl

/-- They stay alike where the same entry is put into both. -/
theorem Alike.put (h : Alike fs other) (hplace : place ≠ []) (entry : Entry) :
    Alike (fs.put place entry) (other.put place entry) := by
  refine ⟨h.home_eq, h.umask_eq, fun found => ?_⟩
  rw [at?_put other hplace, at?_put fs hplace]
  split
  · rfl
  · exact h.outline found

/-! ## Looking up -/

/-- A walk over names asks for directories and links alone, so that it is the same in both.  The
    induction is on the names, and the walk over the target of a link is a parameter. -/
theorem Alike.walkNames_eq (h : Alike fs other) (expand : Walk) (slash : Bool) (here : Location)
    (names : List Name) :
    walkNames other last slash expand here names = walkNames fs last slash expand here names := by
  -- a walk asks whether something stands at a name, and whether that is a directory or which link
  induction names generalizing here with
  | nil => rfl
  | cons name rest ih =>
    have hat := h.at? (name :: here)
    rw [walkNames, walkNames, h.isDirectoryAt_eq, ih, ih, ih]
    generalize fs.at? (name :: here) = entry at hat ⊢
    generalize other.at? (name :: here) = found at hat ⊢
    cases hat <;> rfl

/-- Walks are the same in both, by induction on the links that may be followed. -/
theorem Alike.walk_eq (h : Alike fs other) (last : Last) (links : Nat) :
    other.walk last links = fs.walk last links := by
  induction links with
  | zero => exact funext fun here => funext fun names => funext fun slash =>
    h.walkNames_eq _ slash here names
  | succ links ih =>
    funext here names slash
    rw [walk, walk, ih]
    exact h.walkNames_eq _ slash here names

theorem Alike.startOf_eq (h : Alike fs other) (p : Path) : other.startOf p = fs.startOf p := by
  rw [startOf, startOf, h.home_eq]

theorem Alike.lookUpFor_eq (h : Alike fs other) (last : Last) (p : Path) :
    other.lookUpFor last p = fs.lookUpFor last p := by
  rw [lookUpFor, lookUpFor, h.walk_eq, h.startOf_eq]

/-- A path leads to the same place in both, or fails for the same reason. -/
theorem Alike.find_eq (h : Alike fs other) (p : Path) : other.find p = fs.find p := by
  rw [find, find, lookUp, lookUp, h.lookUpFor_eq]
  simp only [h.isDirectoryAt_eq]

theorem Alike.pathExists_eq (h : Alike fs other) (p : Path) :
    other.pathExists p = fs.pathExists p := by
  rw [pathExists, pathExists, h.find_eq]

theorem Alike.isDirectory_eq (h : Alike fs other) (p : Path) :
    other.isDirectory p = fs.isDirectory p := by
  rw [isDirectory, isDirectory, h.find_eq]
  simp only [h.isDirectoryAt_eq]

theorem Alike.placeToWrite_eq (h : Alike fs other) (p : Path) :
    other.placeToWrite p = fs.placeToWrite p := by
  rw [placeToWrite, placeToWrite, h.lookUpFor_eq]
  simp only [h.isDirectoryAt_eq]

/-! ## Operations -/

/-- Two operations end the same way and leave their file systems alike. -/
inductive AlikeAfter : Except IoError FileSystem → Except IoError FileSystem → Prop
  | error {source : IoError} : AlikeAfter (.error source) (.error source)
  | ok {after otherAfter : FileSystem} (h : Alike after otherAfter) :
      AlikeAfter (.ok after) (.ok otherAfter)

/-- A directory is made in both or in neither, and they stay alike. -/
theorem Alike.makeDirectory (h : Alike fs other) (p : Path) :
    AlikeAfter (fs.makeDirectory p) (other.makeDirectory p) := by
  rw [FileSystem.makeDirectory, FileSystem.makeDirectory, lookUpSelf, lookUpSelf, h.lookUpFor_eq,
    h.walk_eq, h.startOf_eq]
  split
  · exact .error
  · simp only
    split
    · exact .error
    · split
      · split
        · exact .error
        · exact .error
      · split
        · exact .error
        · exact .error
        · exact .ok (h.put (List.cons_ne_nil _ _) .directory)

/-- Two operations that leave a file system also where they fail end the same way and leave them
    alike. -/
inductive AlikeEnd {α : Type} : α × FileSystem → α × FileSystem → Prop
  | same {outcome : α} {after otherAfter : FileSystem} (h : Alike after otherAfter) :
      AlikeEnd (outcome, after) (outcome, otherAfter)

theorem AlikeEnd.outcome_eq {α : Type} {ended otherEnded : α × FileSystem}
    (h : AlikeEnd ended otherEnded) : otherEnded.1 = ended.1 := by
  cases h
  rfl

theorem AlikeEnd.alike {α : Type} {ended otherEnded : α × FileSystem}
    (h : AlikeEnd ended otherEnded) : Alike ended.2 otherEnded.2 := by
  cases h with
  | same h => exact h

/-- A chain of directories ends the same way in both, by induction on its paths. -/
theorem Alike.makeChain (h : Alike fs other) (paths : List Path) :
    AlikeEnd (fs.makeChain paths) (other.makeChain paths) := by
  induction paths with
  | nil => exact .same h
  | cons p above ih =>
    have hfirst := h.makeDirectory p
    rw [FileSystem.makeChain, FileSystem.makeChain, h.isDirectory_eq]
    generalize fs.makeDirectory p = made at hfirst ⊢
    generalize other.makeDirectory p = otherMade at hfirst ⊢
    generalize fs.makeChain above = chain at ih ⊢
    generalize other.makeChain above = otherChain at ih ⊢
    split
    · exact .same h
    · -- the directory itself, then those above it, and then the directory again
      cases hfirst with
      | ok hmade => exact .same hmade
      | error =>
        simp only
        split
        · cases ih with
          | @same outcome left otherLeft hchain =>
            cases outcome with
            | error => exact .same hchain
            | ok =>
              have hsecond := hchain.makeDirectory p
              simp only
              rw [hchain.isDirectory_eq]
              generalize left.makeDirectory p = made at hsecond ⊢
              generalize otherLeft.makeDirectory p = otherMade at hsecond ⊢
              cases hsecond with
              | ok hmade => exact .same hmade
              | error => exact .same hchain
        · exact .same h

theorem Alike.makeDirectories (h : Alike fs other) (p : Path) :
    AlikeEnd (fs.makeDirectories p) (other.makeDirectories p) :=
  h.makeChain _

/-- They stay alike where a file is written into both, with whichever bits it keeps. -/
theorem Alike.putFile (h : Alike fs other) (hplace : place ≠ []) (content : List UInt8)
    (mode : Nat) : Alike (fs.putFile place content mode) (other.putFile place content mode) := by
  have hat := h.at? place
  rw [FileSystem.putFile, FileSystem.putFile, h.umask_eq]
  generalize fs.at? place = entry at hat ⊢
  generalize other.at? place = found at hat ⊢
  cases hat <;> exact h.put hplace _

/-- The root is never written to. -/
theorem placeToWrite_ne_nil (h : fs.placeToWrite p = .ok place) : place ≠ [] := by
  rw [placeToWrite] at h
  split at h
  · nomatch h
  · obtain rfl := Except.ok.inj h
    exact List.cons_ne_nil _ _
  · split at h
    · nomatch h
    · next hdirectory =>
      obtain rfl := Except.ok.inj h
      rintro rfl
      exact hdirectory (isDirectoryAt_root fs)

/-- A file is written in both or in neither, and they stay alike. -/
theorem Alike.write (h : Alike fs other) (p : Path) (content : List UInt8) (mode : Nat) :
    AlikeAfter (fs.write p content mode) (other.write p content mode) := by
  rw [FileSystem.write, FileSystem.write, h.placeToWrite_eq]
  split
  · exact .error
  · next hplace => exact .ok (h.putFile (placeToWrite_ne_nil hplace) content mode)

end FileSystem

end ProxyTrust
