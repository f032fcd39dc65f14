/-
  Walks over a file system, as a relation.

  1. **Entries** — what stands at a location after an entry was put somewhere or taken away.

  2. **Leads** — `Leads fs last links here names slash spot` says that a walk ends at the spot,
     with one case for every kind of name on the way.  `walk_eq_ok_iff` shows that these are the
     walks that succeed.  The function goes by recursion on the links inside one on the names; the
     relation is a single induction, so that every later fact is one induction over it and never
     opens the function again.

  3. **Last names** — what is wanted of the last name is the one thing that the three kinds of
     walks differ in.  A walk for a file that may have to be made is a walk to a target, and the
     other way round where it ends without a slash.  Where a walk to a target succeeds, so does
     the walk to the entry itself.

  4. **Ends** — a walk from the root for a file that may have to be made never ends at a link.
-/
import ProxyTrust.Files.FileSystem

namespace ProxyTrust.FileSystem

variable {fs : FileSystem} {place : Location}

/-! ## Entries -/

@[simp] theorem at?_root (fs : FileSystem) : fs.at? [] = some .directory := by
  rw [at?, if_pos rfl]

@[simp] theorem isDirectoryAt_root (fs : FileSystem) : fs.isDirectoryAt [] = true := by
  rw [isDirectoryAt, at?_root]
  rfl

theorem isDirectoryAt_iff : fs.isDirectoryAt place = true ↔ fs.at? place = some .directory := by
  rw [isDirectoryAt, beq_iff_eq]

/-- The entries at other locations are found in a list without those at one. -/
theorem find?_filter_ne (entries : List (Location × Entry)) (place other : Location) :
    (entries.filter fun e => e.1 != place).find? (·.1 == other)
      = if other = place then none else entries.find? (·.1 == other) := by
  rw [List.find?_filter]
  split
  · next hother =>
    rw [List.find?_eq_none]
    intro e _ hboth
    simp [hother] at hboth
  · next hother =>
    have hkept (e : Location × Entry) :
        decide ((e.1 != place) = true ∧ (e.1 == other) = true) = (e.1 == other) := by
      by_cases hfound : e.1 = other
      · simp [hfound, hother]
      · simp [hfound]
    exact congrArg (entries.find? ·) (funext hkept)

/-- What stands at a location when an entry was put at another one, or at this one. -/
theorem at?_put (fs : FileSystem) (hplace : place ≠ []) (entry : Entry) (other : Location) :
    (fs.put place entry).at? other = if other = place then some entry else fs.at? other := by
  by_cases hroot : other = []
  · rw [hroot, at?_root, at?_root, if_neg hplace.symm]
  · rw [at?, if_neg hroot, at?, if_neg hroot, put]
    by_cases hother : other = place
    · rw [if_pos hother, List.find?_cons_of_pos (by simp [hother])]
      rfl
    · rw [if_neg hother, List.find?_cons_of_neg (by simp [Ne.symm hother]), find?_filter_ne,
        if_neg hother]

/-- What stands at a location when the entry at another one is taken away. -/
theorem at?_filter_ne (fs : FileSystem) (hplace : place ≠ []) (other : Location) :
    { fs with entries := fs.entries.filter fun e => e.1 != place }.at? other
      = if other = place then none else fs.at? other := by
  by_cases hroot : other = []
  · rw [hroot, at?_root, at?_root, if_neg hplace.symm]
  · rw [at?, if_neg hroot, at?, if_neg hroot, find?_filter_ne]
    split <;> rfl

/-! ## Leads -/

/-- A name is looked for in a directory: it is neither of the two that every directory holds, it
    is not too long, and it may be made if that is wanted. -/
structure Takes (fs : FileSystem) (last : Last) (slash : Bool) (here : Location) (name : Name)
    (rest : List Name) : Prop where
  directory : fs.isDirectoryAt here = true
  ne_dot : name ≠ Path.dot
  ne_dotDot : name ≠ Path.dotDot
  allowed : ¬ (rest = [] ∧ slash = true ∧ last = .made)
  short : ¬ nameLimit < name.length

/-- Where a walk from `here` over the names ends, over `links` links at most. -/
inductive Leads (fs : FileSystem) (last : Last) :
    Nat → Location → List Name → Bool → Spot → Prop
  | done {links here slash} : Leads fs last links here [] slash (.there here slash)
  | dot {links here rest slash spot} (hdirectory : fs.isDirectoryAt here = true)
      (hrest : Leads fs last links here rest slash spot) :
      Leads fs last links here (Path.dot :: rest) slash spot
  | dotDot {links here rest slash spot} (hdirectory : fs.isDirectoryAt here = true)
      (hrest : Leads fs last links here.tail rest slash spot) :
      Leads fs last links here (Path.dotDot :: rest) slash spot
  /-- Nothing has the last name. -/
  | absent {links here name slash} (htakes : Takes fs last slash here name [])
      (hat : fs.at? (name :: here) = none) :
      Leads fs last links here [name] slash (.absent here name slash)
  /-- The last name is that of a link, and the link itself is wanted. -/
  | itself {links here name target slash} (htakes : Takes fs last slash here name [])
      (hat : fs.at? (name :: here) = some (.link target)) (hlast : last = .itself) :
      Leads fs last links here [name] slash (.there (name :: here) slash)
  /-- A link is followed. -/
  | link {links here name rest target slash spot} (htakes : Takes fs last slash here name rest)
      (hat : fs.at? (name :: here) = some (.link target)) (hlast : ¬ (rest = [] ∧ last = .itself))
      (hrest : Leads fs last links (if target.isAbsolute then [] else here)
        (Path.components target.bytes ++ rest)
        (if rest = [] then slash || Path.endsInSlash target.bytes else slash) spot) :
      Leads fs last (links + 1) here (name :: rest) slash spot
  | entry {links here name rest entry slash spot} (htakes : Takes fs last slash here name rest)
      (hat : fs.at? (name :: here) = some entry) (hentry : ∀ target, entry ≠ .link target)
      (hrest : Leads fs last links (name :: here) rest slash spot) :
      Leads fs last links here (name :: rest) slash spot

variable {last : Last} {links : Nat} {here : Location} {name : Name} {names rest : List Name}
  {slash : Bool} {spot : Spot}

/-- A walk that takes a name goes on with what stands there. -/
theorem walkNames_takes {expand : Walk} (h : Takes fs last slash here name rest) :
    walkNames fs last slash expand here (name :: rest) =
      match fs.at? (name :: here) with
      | none => if rest = [] then .ok (.absent here name slash) else .error .noEntry
      | some (.link target) =>
        if rest = [] && last = .itself then .ok (.there (name :: here) slash)
        else
          expand (if target.isAbsolute then [] else here) (Path.components target.bytes ++ rest)
            (if rest = [] then slash || Path.endsInSlash target.bytes else slash)
      | some _ => walkNames fs last slash expand (name :: here) rest := by
  have hallowed : ¬ (decide (rest = []) && slash && decide (last = .made)) = true := by
    intro hmade
    simp only [Bool.and_eq_true, decide_eq_true_eq] at hmade
    exact h.allowed ⟨hmade.1.1, hmade.1.2, hmade.2⟩
  rw [walkNames, if_neg (by simp [h.directory]), if_neg h.ne_dot, if_neg h.ne_dotDot,
    if_neg hallowed]
  exact if_neg h.short

/-- A name that a walk gets over: one of the two that every directory holds, or one that it
    takes. -/
theorem walkNames_cons {expand : Walk}
    (h : walkNames fs last slash expand here (name :: rest) = .ok spot) :
    fs.isDirectoryAt here = true
      ∧ (name = Path.dot ∨ name = Path.dotDot ∨ Takes fs last slash here name rest) := by
  rw [walkNames] at h
  split at h
  · nomatch h
  · next hdirectory =>
    have hdirectory : fs.isDirectoryAt here = true := by simpa using hdirectory
    refine ⟨hdirectory, ?_⟩
    -- the two names that every directory holds, and then the checks on a name that is looked for
    by_cases hdot : name = Path.dot
    · exact .inl hdot
    by_cases hdotDot : name = Path.dotDot
    · exact .inr (.inl hdotDot)
    rw [if_neg hdot, if_neg hdotDot] at h
    split at h
    · nomatch h
    · next hallowed =>
      split at h
      · nomatch h
      · next hshort =>
        refine .inr (.inr ⟨hdirectory, hdot, hdotDot, ?_, hshort⟩)
        rintro ⟨hrest, hslash, hlast⟩
        exact hallowed (by simp [hrest, hslash, hlast])

/-- How a walk goes on after a link. -/
def onward (fs : FileSystem) (last : Last) : Nat → Walk
  | 0 => fun _ _ _ => .error .linkLoop
  | links + 1 => fs.walk last links

/-- A walk is one over names, where links lead on with one link less to follow. -/
theorem walk_eq (fs : FileSystem) (last : Last) (links : Nat) (here : Location) (names : List Name)
    (slash : Bool) :
    fs.walk last links here names slash
      = walkNames fs last slash (onward fs last links) here names := by
  cases links <;> rfl

/-- A walk over names leads where it ends, if what it does after a link does so. -/
theorem leads_of_walkNames
    (honward : ∀ {here names slash spot}, onward fs last links here names slash = .ok spot →
      ∃ fewer, links = fewer + 1 ∧ Leads fs last fewer here names slash spot)
    (h : walkNames fs last slash (onward fs last links) here names = .ok spot) :
    Leads fs last links here names slash spot := by
  induction names generalizing here with
  | nil =>
    obtain rfl := Except.ok.inj h
    exact .done
  | cons name rest ih =>
    obtain ⟨hdirectory, rfl | rfl | htakes⟩ := walkNames_cons h
    · rw [walkNames, if_neg (by simp [hdirectory]), if_pos rfl] at h
      exact .dot hdirectory (ih h)
    · rw [walkNames, if_neg (by simp [hdirectory]), if_neg (by decide), if_pos rfl] at h
      exact .dotDot hdirectory (ih h)
    · -- the name is taken as an entry: there is none, or a link, or one of another kind
      rw [walkNames_takes htakes] at h
      split at h
      · next hat =>
        split at h
        · next hrest =>
          obtain rfl := hrest
          obtain rfl := Except.ok.inj h
          exact .absent htakes hat
        · cases h
      · next target hat =>
        split at h
        · next hitself =>
          simp only [Bool.and_eq_true, decide_eq_true_eq] at hitself
          obtain ⟨rfl, hlast⟩ := hitself
          obtain rfl := Except.ok.inj h
          exact .itself htakes hat hlast
        · next hfollow =>
          simp only [Bool.and_eq_true, decide_eq_true_eq] at hfollow
          obtain ⟨fewer, rfl, hleads⟩ := honward h
          exact .link htakes hat hfollow hleads
      · next entry hlink hat => exact .entry htakes hat hlink (ih h)

/-- A walk that succeeds leads where it ends. -/
theorem leads_of_walk (h : fs.walk last links here names slash = .ok spot) :
    Leads fs last links here names slash spot := by
  -- the outer induction, on the links that are left; the one on the names is in the lemma above
  induction links generalizing here names slash spot with
  | zero =>
    rw [walk_eq] at h
    exact leads_of_walkNames (fun h => nomatch h) h
  | succ fewer ih =>
    rw [walk_eq] at h
    exact leads_of_walkNames (fun h => ⟨fewer, rfl, ih h⟩) h

/-- The walks that succeed are those that lead somewhere. -/
theorem walk_eq_ok_iff :
    fs.walk last links here names slash = .ok spot ↔ Leads fs last links here names slash spot := by
  refine ⟨leads_of_walk, fun h => ?_⟩
  -- each case is one equation of the walk over names, between two turns of `walk_eq`
  induction h with
  | done => rw [walk_eq]; rfl
  | dot hdirectory _ ih =>
    rw [walk_eq, walkNames, if_neg (by simp [hdirectory]), if_pos rfl, ← walk_eq]
    exact ih
  | dotDot hdirectory _ ih =>
    rw [walk_eq, walkNames, if_neg (by simp [hdirectory]), if_neg (by decide), if_pos rfl,
      ← walk_eq]
    exact ih
  | absent htakes hat =>
    rw [walk_eq, walkNames_takes htakes, hat]
    rfl
  | itself htakes hat hlast =>
    rw [walk_eq, walkNames_takes htakes, hat]
    simp [hlast]
  | @link links here name rest target slash spot htakes hat hlast _ ih =>
    rw [walk_eq, walkNames_takes htakes, hat]
    simp only [Bool.and_eq_true, decide_eq_true_eq, if_neg hlast]
    exact ih
  | @entry links here name rest entry slash spot htakes hat hentry _ ih =>
    rw [walk_eq, walkNames_takes htakes, hat]
    cases entry with
    | link target => exact absurd rfl (hentry target)
    | file content mode => rw [← walk_eq]; exact ih
    | directory => rw [← walk_eq]; exact ih

/-- A path leads somewhere if it is one that the system takes and the walk over it does. -/
theorem lookUpFor_eq_ok_iff {p : Path} :
    fs.lookUpFor last p = .ok spot ↔ checkPath p = .ok ()
      ∧ Leads fs last linkLimit (fs.startOf p) (Path.components p.bytes) (Path.endsInSlash p.bytes)
          spot := by
  rw [lookUpFor]
  cases checkPath p with
  | error e => simp
  | ok => simp [walk_eq_ok_iff]

/-! ## Last names -/

/-- A name that a walk takes is taken by every walk that does not have to make it. -/
theorem Takes.of_ne_made (h : Takes fs last slash here name rest) {other : Last}
    (hother : other ≠ .made) : Takes fs other slash here name rest :=
  ⟨h.directory, h.ne_dot, h.ne_dotDot, fun hmade => hother hmade.2.2, h.short⟩

/-- A walk for a file that may have to be made is a walk to a target. -/
theorem Leads.target (h : Leads fs .made links here names slash spot) :
    Leads fs .target links here names slash spot := by
  induction h with
  | done => exact .done
  | dot hdirectory _ ih => exact .dot hdirectory ih
  | dotDot hdirectory _ ih => exact .dotDot hdirectory ih
  | absent htakes hat => exact .absent (htakes.of_ne_made (by decide)) hat
  | itself _ _ hlast => nomatch hlast
  | link htakes hat _ _ ih =>
    exact .link (htakes.of_ne_made (by decide)) hat (fun hitself => nomatch hitself.2) ih
  | entry htakes hat hentry _ ih => exact .entry (htakes.of_ne_made (by decide)) hat hentry ih

/-- A walk to a target that ends at an entry without a slash is a walk for a file that may have to
    be made. -/
theorem Leads.made_of_target (h : Leads fs .target links here names slash spot)
    (hspot : spot = .there place false) :
    slash = false ∧ Leads fs .made links here names slash spot := by
  have hmade {here : Location} {name : Name} {rest : List Name} {ended : Bool}
      (htakes : Takes fs .target ended here name rest) (hended : rest = [] → ended = false) :
      Takes fs .made ended here name rest := by
    refine ⟨htakes.directory, htakes.ne_dot, htakes.ne_dotDot, ?_, htakes.short⟩
    rintro ⟨hrest, hslash, -⟩
    rw [hended hrest] at hslash
    nomatch hslash
  induction h with
  | done =>
    obtain ⟨-, rfl⟩ := Spot.there.inj hspot
    exact ⟨rfl, .done⟩
  | dot hdirectory _ ih => exact ⟨(ih hspot).1, .dot hdirectory (ih hspot).2⟩
  | dotDot hdirectory _ ih => exact ⟨(ih hspot).1, .dotDot hdirectory (ih hspot).2⟩
  | absent => nomatch hspot
  | itself _ _ hlast => nomatch hlast
  | @link links here name rest target slash spot htakes hat hlast _ ih =>
    obtain ⟨hended, hrest⟩ := ih hspot
    -- a slash after the name is a slash after the names of the link
    have hslash : slash = false := by
      split at hended
      · exact (Bool.or_eq_false_iff.mp hended).1
      · exact hended
    exact ⟨hslash, .link (hmade htakes fun _ => hslash) hat (fun hall => nomatch hall.2) hrest⟩
  | entry htakes hat hentry _ ih =>
    obtain ⟨hslash, hrest⟩ := ih hspot
    exact ⟨hslash, .entry (hmade htakes fun _ => hslash) hat hentry hrest⟩

/-- Where a walk to a target succeeds, the walk to the entry itself ends there as well, or before
    that at a link. -/
theorem Leads.itself_of_target (h : Leads fs .target links here names slash spot) :
    ∃ stop, Leads fs .itself links here names slash stop
      ∧ (stop = spot ∨ ∃ place target, stop = .there place slash
          ∧ fs.at? place = some (.link target)) := by
  induction h with
  | done => exact ⟨_, .done, .inl rfl⟩
  | dot hdirectory _ ih =>
    obtain ⟨stop, hstop, hspot⟩ := ih
    exact ⟨stop, .dot hdirectory hstop, hspot⟩
  | dotDot hdirectory _ ih =>
    obtain ⟨stop, hstop, hspot⟩ := ih
    exact ⟨stop, .dotDot hdirectory hstop, hspot⟩
  | absent htakes hat => exact ⟨_, .absent (htakes.of_ne_made (by decide)) hat, .inl rfl⟩
  | itself _ _ hlast => nomatch hlast
  | @link links here name rest target slash spot htakes hat _ _ ih =>
    have htakes := htakes.of_ne_made (by decide : Last.itself ≠ .made)
    by_cases hrest : rest = []
    · -- the link is the last name, and the walk to the entry itself stops at it
      subst hrest
      exact ⟨_, .itself htakes hat rfl, .inr ⟨name :: here, target, rfl, hat⟩⟩
    · have hfollow : ¬ (rest = [] ∧ Last.itself = .itself) := fun hboth => hrest hboth.1
      obtain ⟨stop, hstop, hspot⟩ := ih
      refine ⟨stop, .link htakes hat hfollow hstop, ?_⟩
      rwa [if_neg hrest] at hspot
  | entry htakes hat hentry _ ih =>
    obtain ⟨stop, hstop, hspot⟩ := ih
    exact ⟨stop, .entry (htakes.of_ne_made (by decide)) hat hentry hstop, hspot⟩

/-! ## Ends -/

/-- All locations above one are directories. -/
def Standing (fs : FileSystem) : Location → Prop
  | [] => True
  | _ :: above => fs.isDirectoryAt above = true ∧ Standing fs above

/-- Where a walk for a file that may have to be made may end: at a directory, at something else
    that is no link and has no slash after it, or at a name that is free. -/
def Makeable (fs : FileSystem) : Spot → Prop
  | .there place slash => fs.isDirectoryAt place = true
      ∨ (slash = false ∧ ∀ target, fs.at? place ≠ some (.link target))
  | .absent parent name slash => slash = false ∧ fs.at? (name :: parent) = none

/-- What stands in directories has a directory above it, which stands in directories itself. -/
theorem Standing.tail (h : Standing fs here) :
    fs.isDirectoryAt here.tail = true ∧ Standing fs here.tail := by
  cases here with
  | nil => exact ⟨isDirectoryAt_root fs, h⟩
  | cons name above => exact h

/-- A walk from a directory for a file that may have to be made ends where a file may be made. -/
theorem Leads.makeable (h : Leads fs .made links here names slash spot)
    (hstanding : Standing fs here) (hhere : fs.isDirectoryAt here = true
      ∨ ((names = [] → slash = false) ∧ ∀ target, fs.at? here ≠ some (.link target))) :
    Makeable fs spot := by
  induction h with
  | done =>
    rcases hhere with hdirectory | ⟨hslash, hlink⟩
    · exact .inl hdirectory
    · exact .inr ⟨hslash rfl, hlink⟩
  | dot hdirectory _ ih => exact ih hstanding (.inl hdirectory)
  | dotDot _ _ ih => exact ih hstanding.tail.2 (.inl hstanding.tail.1)
  | @absent _ _ _ slash htakes hat =>
    refine ⟨?_, hat⟩
    cases slash with
    | false => rfl
    | true => exact absurd ⟨rfl, rfl, rfl⟩ htakes.allowed
  | itself _ _ hlast => nomatch hlast
  | @link _ _ _ _ target _ _ htakes _ _ _ ih =>
    -- the walk goes on from the root or from the directory that the link is in
    cases htarget : target.isAbsolute with
    | true => exact ih (by rw [htarget]; trivial) (.inl (by simp [htarget]))
    | false =>
      exact ih (by simpa [htarget] using hstanding) (.inl (by simp [htarget, htakes.directory]))
  | @entry _ here name rest entry slash _ htakes hat hentry _ ih =>
    -- a file with names after it is let through here: the next step refuses it
    refine ih ⟨htakes.directory, hstanding⟩ (.inr ⟨?_, ?_⟩)
    · intro hrest
      cases slash with
      | false => rfl
      | true => exact absurd ⟨hrest, rfl, rfl⟩ htakes.allowed
    · intro target
      rw [hat]
      exact fun heq => hentry target (Option.some.inj heq)

end ProxyTrust.FileSystem
