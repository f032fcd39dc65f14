/-
  What only ever grows.

  1. **Trees** — in a file system that is a tree, whatever stands somewhere stands in a directory.

  2. **Growth** — `Grows before after` says that nothing was taken away: directories and links
     stay, a file stays a file, and what is new stands in a directory.  Hence a tree stays a tree.
     Growth is reflexive and transitive, so that it holds of a row of operations where it holds of
     each.

  3. **Walks** — a walk that ended at an entry still ends there.  The one that ended at a free
     name may go on now, so that the induction is over the walks that found something
     (`Leads.grows`).

  4. **Operations** — writing a file and making directories only let a file system grow, also
     where they fail half-way.  Both put one entry at a free place in a directory (`grows_put`),
     or write over a file that is there.
-/
import ProxyTrust.Proofs.Files.Writing

namespace ProxyTrust.FileSystem

variable {fs before between after : FileSystem} {place here : Location} {name : Name}
  {names : List Name} {last : Last} {links : Nat} {slash : Bool} {spot : Spot} {p : Path}

/-! ## Trees -/

/-- Whatever stands somewhere stands in a directory. -/
def IsTree (fs : FileSystem) : Prop :=
  ∀ name above, fs.at? (name :: above) ≠ none → fs.isDirectoryAt above = true

/-- A row of entries that all stand in directories is a tree. -/
theorem isTree_of_entries (h : ∀ e ∈ fs.entries, fs.isDirectoryAt e.1.tail = true) : fs.IsTree := by
  intro name above hat
  rw [at?, if_neg (List.cons_ne_nil name above)] at hat
  cases hfound : fs.entries.find? (·.1 == name :: above) with
  | none => exact absurd (by rw [hfound]; rfl) hat
  | some e =>
    have hplace : e.1 = name :: above := by simpa using List.find?_some hfound
    have hdirectory := h e (List.mem_of_find?_eq_some hfound)
    rwa [hplace] at hdirectory

/-- A root with nothing in it. -/
def emptyRoot : FileSystem := .withHome []

theorem isTree_emptyRoot : emptyRoot.IsTree := isTree_of_entries (by decide)

/-- A root with one file in it. -/
def oneFile (name : String) (content : List UInt8) : FileSystem :=
  emptyRoot.put [Text.encodeUtf8 name.toList] (.file content 0o644)

/-- Nothing stands where nothing stands above. -/
theorem IsTree.free_below (h : fs.IsTree) (hfree : fs.at? place = none) (name : Name) :
    fs.at? (name :: place) = none := by
  cases hat : fs.at? (name :: place) with
  | none => rfl
  | some entry =>
    have hdirectory :=
      isDirectoryAt_iff.mp (h name place (by rw [hat]; exact Option.some_ne_none _))
    rw [hfree] at hdirectory
    nomatch hdirectory

/-- All locations above an entry are directories. -/
theorem IsTree.standing (h : fs.IsTree) (hplace : fs.at? place ≠ none) : Standing fs place := by
  induction place with
  | nil => trivial
  | cons name above ih =>
    have habove : fs.isDirectoryAt above = true := h name above hplace
    refine ⟨habove, ih ?_⟩
    rw [isDirectoryAt_iff.mp habove]
    exact Option.some_ne_none _

/-! ## Growth -/

/-- Nothing of the first file system is taken away in the second one. -/
structure Grows (before after : FileSystem) : Prop where
  home_eq : after.home = before.home
  directory : ∀ {place}, before.isDirectoryAt place = true → after.isDirectoryAt place = true
  link : ∀ {place target}, before.at? place = some (.link target) →
    after.at? place = some (.link target)
  file : ∀ {place content mode}, before.at? place = some (.file content mode) →
    ∃ later mode', after.at? place = some (.file later mode')
  new : ∀ {name above}, before.at? (name :: above) = none → after.at? (name :: above) ≠ none →
    after.isDirectoryAt above = true

theorem Grows.refl (fs : FileSystem) : Grows fs fs where
  home_eq := rfl
  directory := id
  link := id
  file hat := ⟨_, _, hat⟩
  new hfree hnew := absurd hfree hnew

/-- What grows twice grows. -/
theorem Grows.trans (h : Grows before between) (hlater : Grows between after) :
    Grows before after where
  home_eq := hlater.home_eq.trans h.home_eq
  directory hat := hlater.directory (h.directory hat)
  link hat := hlater.link (h.link hat)
  file hat := by
    obtain ⟨content, mode, hbetween⟩ := h.file hat
    exact hlater.file hbetween
  new {name above} hfree hnew := by
    by_cases hbetween : between.at? (name :: above) = none
    · exact hlater.new hbetween hnew
    · exact hlater.directory (h.new hfree hbetween)

/-- A tree stays a tree, for what is new stands in a directory. -/
theorem Grows.isTree (h : Grows before after) (htree : before.IsTree) : after.IsTree := by
  intro name above hat
  by_cases hfree : before.at? (name :: above) = none
  · exact h.new hfree hat
  · exact h.directory (htree name above hfree)

theorem Grows.startOf_eq (h : Grows before after) (p : Path) :
    after.startOf p = before.startOf p := by
  rw [startOf, startOf, h.home_eq]

/-- What is no link stays, and stays no link. -/
theorem Grows.entry (h : Grows before after) {entry : Entry} (hat : before.at? place = some entry)
    (hentry : ∀ target, entry ≠ .link target) :
    ∃ later, after.at? place = some later ∧ ∀ target, later ≠ .link target := by
  cases entry with
  | file content mode =>
    obtain ⟨later, mode', hlater⟩ := h.file hat
    exact ⟨_, hlater, fun _ heq => nomatch heq⟩
  | directory =>
    have hlater := isDirectoryAt_iff.mp (h.directory (isDirectoryAt_iff.mpr hat))
    exact ⟨_, hlater, fun _ heq => nomatch heq⟩
  | link target => exact absurd rfl (hentry target)

/-! ## Walks -/

theorem Takes.grows {rest : List Name} (h : Takes before last slash here name rest)
    (hgrows : Grows before after) : Takes after last slash here name rest :=
  ⟨hgrows.directory h.directory, h.ne_dot, h.ne_dotDot, h.allowed, h.short⟩

/-- A walk that ended at an entry still ends there. -/
theorem Leads.grows {found : Bool} (h : Leads before last links here names slash spot)
    (hgrows : Grows before after) (hspot : spot = .there place found) :
    Leads after last links here names slash spot := by
  induction h with
  | done => exact .done
  | dot hdirectory _ ih => exact .dot (hgrows.directory hdirectory) (ih hspot)
  | dotDot hdirectory _ ih => exact .dotDot (hgrows.directory hdirectory) (ih hspot)
  | absent => nomatch hspot
  | itself htakes hat hlast => exact .itself (htakes.grows hgrows) (hgrows.link hat) hlast
  | link htakes hat hlast _ ih =>
    exact .link (htakes.grows hgrows) (hgrows.link hat) hlast (ih hspot)
  | entry htakes hat hentry _ ih =>
    obtain ⟨later, hlater, hnoLink⟩ := hgrows.entry hat hentry
    exact .entry (htakes.grows hgrows) hlater hnoLink (ih hspot)

/-- A path that led to a place still leads there. -/
theorem Grows.find (h : Grows before after) (hfind : before.find p = .ok place) :
    after.find p = .ok place := by
  obtain ⟨slash, hlookUp, hslash⟩ := find_eq_ok_iff.mp hfind
  obtain ⟨hpath, hleads⟩ := lookUpFor_eq_ok_iff.mp hlookUp
  refine find_eq_ok_iff.mpr ⟨slash, lookUpFor_eq_ok_iff.mpr ⟨hpath, ?_⟩, ?_⟩
  · rw [h.startOf_eq]
    exact hleads.grows h rfl
  · intro hended
    exact h.directory (hslash hended)

/-- Something is at a path exactly if the path leads to a place. -/
theorem pathExists_iff : fs.pathExists p = true ↔ ∃ place, fs.find p = .ok place := by
  rw [pathExists]
  cases fs.find p with
  | error e => simp [Except.toOption]
  | ok place => simp [Except.toOption]

/-- A path under which a file is read leads somewhere. -/
theorem exists_of_read {content : List UInt8} (hread : fs.read p = .ok content) :
    fs.pathExists p = true := by
  rw [FileSystem.read] at hread
  cases hfind : fs.find p with
  | error e =>
    rw [hfind] at hread
    cases hread
  | ok place => exact pathExists_iff.mpr ⟨place, hfind⟩

theorem Grows.pathExists (h : Grows before after) (hexists : before.pathExists p = true) :
    after.pathExists p = true := by
  obtain ⟨place, hfind⟩ := pathExists_iff.mp hexists
  exact pathExists_iff.mpr ⟨place, h.find hfind⟩

/-- Where a walk ends at a free name, that name is free in a directory. -/
theorem Leads.free {parent : Location} {free : Name} {found : Bool}
    (h : Leads fs last links here names slash spot) (hspot : spot = .absent parent free found) :
    fs.isDirectoryAt parent = true ∧ fs.at? (free :: parent) = none := by
  induction h with
  | done => nomatch hspot
  | itself => nomatch hspot
  | absent htakes hat =>
    obtain ⟨rfl, rfl, rfl⟩ := Spot.absent.inj hspot
    exact ⟨htakes.directory, hat⟩
  | dot _ _ ih => exact ih hspot
  | dotDot _ _ ih => exact ih hspot
  | link _ _ _ _ ih => exact ih hspot
  | entry _ _ _ _ ih => exact ih hspot

/-- Only directories lie above the entry that a walk ends at. -/
theorem Leads.standing {found : Bool} (h : Leads fs last links here names slash spot)
    (hhere : Standing fs here) (hspot : spot = .there place found) : Standing fs place := by
  induction h with
  | done =>
    obtain ⟨rfl, rfl⟩ := Spot.there.inj hspot
    exact hhere
  | dot _ _ ih => exact ih hhere hspot
  | dotDot _ _ ih => exact ih hhere.tail.2 hspot
  | absent => nomatch hspot
  | itself htakes _ _ =>
    obtain ⟨rfl, rfl⟩ := Spot.there.inj hspot
    exact ⟨htakes.directory, hhere⟩
  | @link _ _ _ _ target _ _ _ _ _ _ ih =>
    refine ih ?_ hspot
    cases target.isAbsolute with
    | true => trivial
    | false => exact hhere
  | entry htakes _ _ _ ih => exact ih ⟨htakes.directory, hhere⟩ hspot

/-- A walk over at least one name begins in a directory. -/
theorem Leads.begins (h : Leads fs last links here names slash spot) (hnames : names ≠ []) :
    fs.isDirectoryAt here = true := by
  cases h with
  | done => exact absurd rfl hnames
  | dot hdirectory _ => exact hdirectory
  | dotDot hdirectory _ => exact hdirectory
  | absent htakes _ => exact htakes.directory
  | itself htakes _ _ => exact htakes.directory
  | link htakes _ _ _ => exact htakes.directory
  | entry htakes _ _ _ => exact htakes.directory

/-! ## Operations -/

/-- A new entry in a directory. -/
theorem grows_put {parent : Location} (hparent : fs.isDirectoryAt parent = true)
    (hfree : fs.at? (name :: parent) = none) (entry : Entry) :
    Grows fs (fs.put (name :: parent) entry) := by
  have hput (other : Location) : (fs.put (name :: parent) entry).at? other
      = if other = name :: parent then some entry else fs.at? other :=
    at?_put fs (List.cons_ne_nil name parent) entry other
  have hkept {other : Location} {old : Entry} (hat : fs.at? other = some old) :
      (fs.put (name :: parent) entry).at? other = some old := by
    have hother : other ≠ name :: parent := by
      rintro rfl
      rw [hfree] at hat
      nomatch hat
    rw [hput, if_neg hother, hat]
  have hdirectory {other : Location} (hat : fs.isDirectoryAt other = true) :
      (fs.put (name :: parent) entry).isDirectoryAt other = true :=
    isDirectoryAt_iff.mpr (hkept (isDirectoryAt_iff.mp hat))
  refine ⟨rfl, hdirectory, hkept, fun hat => ⟨_, _, hkept hat⟩, ?_⟩
  -- the one new place is the one that was put, and its directory was there
  intro other above hnone hnew
  by_cases hother : other :: above = name :: parent
  · obtain ⟨-, rfl⟩ := List.cons.inj hother
    exact hdirectory hparent
  · rw [hput, if_neg hother] at hnew
    exact absurd hnone hnew

theorem Gains.standing {content : List UInt8} (h : Gains before after place content)
    (hstanding : Standing before here) : Standing after here := by
  induction here with
  | nil => trivial
  | cons name above ih =>
    refine ⟨?_, ih hstanding.2⟩
    rw [h.isDirectoryAt_eq]
    exact hstanding.1

/-- A file that was written, where only directories lie above it. -/
theorem Gains.grows {content : List UInt8} (h : Gains before after place content)
    (hstanding : Standing after place) : Grows before after := by
  have hdirectory {other : Location} (hat : before.isDirectoryAt other = true) :
      after.isDirectoryAt other = true := by rw [h.isDirectoryAt_eq]; exact hat
  refine ⟨h.home_eq, hdirectory, h.link, ?_, ?_⟩
  · intro other old mode hat
    by_cases hother : other = place
    · obtain ⟨later, hlater⟩ := h.holds
      exact ⟨content, later, hother ▸ hlater⟩
    · exact ⟨old, mode, by rw [h.others other hother, hat]⟩
  · intro name above hnone hnew
    by_cases hother : name :: above = place
    · subst hother
      exact hstanding.1
    · rw [h.others _ hother] at hnew
      exact absurd hnone hnew

/-- A path that the system takes and that does not begin at the root holds a name. -/
theorem components_ne_nil (hpath : checkPath p = .ok ()) (hroot : ¬ p.isAbsolute = true) :
    Path.components p.bytes ≠ [] := by
  rw [checkPath] at hpath
  rw [Path.isAbsolute] at hroot
  cases hbytes : p.bytes with
  | nil =>
    rw [hbytes] at hpath
    split at hpath
    · nomatch hpath
    · simp at hpath
  | cons b rest =>
    rw [hbytes] at hroot
    have hb : ¬ b = Path.separator := by simpa using hroot
    rw [Path.components, Path.splitSlashes, List.foldr_cons, if_neg hb]
    split <;> simp

/-- Wherever a path leads, the walk over it begins in a directory, and only directories lie above
    that. -/
theorem IsTree.start (htree : fs.IsTree) (hlookUp : fs.lookUpFor last p = .ok spot) :
    fs.isDirectoryAt (fs.startOf p) = true ∧ Standing fs (fs.startOf p) := by
  obtain ⟨hpath, hleads⟩ := lookUpFor_eq_ok_iff.mp hlookUp
  by_cases hroot : p.isAbsolute = true
  · rw [startOf, if_pos hroot]
    exact ⟨isDirectoryAt_root fs, trivial⟩
  · have hdirectory := hleads.begins (components_ne_nil hpath hroot)
    refine ⟨hdirectory, htree.standing ?_⟩
    rw [isDirectoryAt_iff.mp hdirectory]
    exact Option.some_ne_none _

/-- A file put where its path says, in a tree, is found under the path afterwards, with
    directories alone above it. -/
theorem IsTree.putFile (htree : before.IsTree) (hplace : before.placeToWrite p = .ok place)
    (content : List UInt8) (mode : Nat) :
    Gains before (before.putFile place content mode) place content
      ∧ (before.putFile place content mode).find p = .ok place
      ∧ Standing (before.putFile place content mode) place := by
  obtain ⟨spot, hlookUp⟩ := lookUpFor_of_placeToWrite hplace
  obtain ⟨hdirectory, hstanding⟩ := htree.start hlookUp
  obtain ⟨hgains, hfind⟩ := gains_of_placeToWrite hdirectory hstanding hplace content mode
  refine ⟨hgains, hfind, ?_⟩
  obtain ⟨slash, hlookUp, -⟩ := find_eq_ok_iff.mp hfind
  obtain ⟨-, hleads⟩ := lookUpFor_eq_ok_iff.mp hlookUp
  refine hleads.standing ?_ rfl
  rw [hgains.startOf_eq]
  exact hgains.standing hstanding

/-- A file that is written in a tree is found under its path afterwards, with directories alone
    above it. -/
theorem IsTree.write {content : List UInt8} {mode : Nat} (htree : before.IsTree)
    (hwrite : before.write p content mode = .ok after) :
    ∃ place, Gains before after place content ∧ after.find p = .ok place
      ∧ Standing after place := by
  obtain ⟨place, hplace, rfl⟩ := write_eq_ok_iff.mp hwrite
  exact ⟨place, htree.putFile hplace content mode⟩

/-- What was written in a tree can be written once more, and nothing changes. -/
theorem IsTree.write_again {content : List UInt8} {mode : Nat} (htree : before.IsTree)
    (hwrite : before.write p content mode = .ok after) :
      after.write p content mode = .ok after := by
  obtain ⟨place, hplace, rfl⟩ := write_eq_ok_iff.mp hwrite
  obtain ⟨hgains, hfind, -⟩ := htree.putFile hplace content mode
  obtain ⟨kept, hfile⟩ := hgains.holds
  exact write_eq_ok_iff.mpr
    ⟨place, placeToWrite_of_find hfind hfile, putFile_putFile before hgains.ne_root content mode⟩

/-- A file that is written is there afterwards, and nothing is taken away. -/
theorem grows_write {content : List UInt8} {mode : Nat} (htree : before.IsTree)
    (hwrite : before.write p content mode = .ok after) :
    Grows before after ∧ after.pathExists p = true := by
  obtain ⟨place, hgains, hfind, hstanding⟩ := htree.write hwrite
  exact ⟨hgains.grows hstanding, pathExists_iff.mpr ⟨place, hfind⟩⟩

/-- A directory is made where the walk to its last name ends at a free name. -/
theorem makeDirectory_eq_ok (hmake : before.makeDirectory p = .ok after) :
    ∃ parent name slash, before.lookUpFor .itself p = .ok (.absent parent name slash)
      ∧ after = before.put (name :: parent) .directory := by
  rw [makeDirectory] at hmake
  split at hmake
  · nomatch hmake
  · simp only at hmake
    split at hmake
    · nomatch hmake
    · split at hmake
      · split at hmake <;> nomatch hmake
      · split at hmake
        · nomatch hmake
        · nomatch hmake
        · next hlookUp =>
          obtain rfl := Except.ok.inj hmake
          exact ⟨_, _, _, hlookUp, rfl⟩

/-- Making a directory takes nothing away. -/
theorem grows_makeDirectory (hmake : before.makeDirectory p = .ok after) : Grows before after := by
  obtain ⟨parent, name, slash, hlookUp, rfl⟩ := makeDirectory_eq_ok hmake
  obtain ⟨-, hleads⟩ := lookUpFor_eq_ok_iff.mp hlookUp
  obtain ⟨hparent, hfree⟩ := hleads.free rfl
  exact grows_put hparent hfree .directory

/-- Whatever holds between two file systems when one directory is made holds when a chain of them
    is, also where that fails half-way. -/
theorem makeChain_rel {R : FileSystem → FileSystem → Prop} (hrefl : ∀ fs, R fs fs)
    (htrans : ∀ {before between after}, R before between → R between after → R before after)
    {paths : List Path}
    (hmake : ∀ q ∈ paths, q.bytes ≠ [] →
      ∀ before after, before.makeDirectory q = .ok after → R before after)
    (fs : FileSystem) : R fs (fs.makeChain paths).2 := by
  -- the induction is on the chain: what stands above the first path is made before it, or not at
  -- all
  induction paths with
  | nil => exact hrefl fs
  | cons p above ih =>
    have hchain := ih fun q hq => hmake q (List.mem_cons_of_mem p hq)
    rw [makeChain]
    split
    · exact hrefl fs
    · next hne =>
      have hp := hmake p List.mem_cons_self hne
      split
      · next hmade => exact hp _ _ hmade
      · split
        · split
          · next heq =>
            rw [heq] at hchain
            exact hchain
          · next heq =>
            rw [heq] at hchain
            split
            · next hmade => exact htrans hchain (hp _ _ hmade)
            · exact hchain
        · exact hrefl fs

/-- Directories that were made stay also where a later one fails. -/
theorem grows_makeChain (fs : FileSystem) (paths : List Path) : Grows fs (fs.makeChain paths).2 :=
  makeChain_rel Grows.refl Grows.trans (fun _ _ _ _ _ => grows_makeDirectory) fs

/-- Nor does making all of those above it, also where it fails half-way. -/
theorem grows_makeDirectories (fs : FileSystem) (p : Path) : Grows fs (fs.makeDirectories p).2 :=
  grows_makeChain fs _

end ProxyTrust.FileSystem
