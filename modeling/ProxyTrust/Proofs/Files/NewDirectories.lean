/-
  Where paths lead when the directories above them were made.

  1. **Failures** — where making a directory fails, its path leads to no directory afterwards
     either.

  2. **The first one** — what `makeDirectories` changes begins with one directory, at a name that
     was free while everything before that name was there already.

  3. **Behind it** — a walk over that name goes on in a new directory.  The earlier walk ended at
     the free name, and the later one is taken apart along with it, name by name (`Leads.behind`):
     at each of them the two do the same, since what was there is still there.

  4. **New places** — all below the new directory is new, links there are none, and so only a `..`
     leads out of it again (`Leads.new`).  Without one, a path leads to an entry that was there
     all along only if it did so before (`find_of_makeDirectories`).
-/
import ProxyTrust.Proofs.Files.Footprint

namespace ProxyTrust.FileSystem

open ProxyTrust.Path (Above)

variable {fs before after : FileSystem} {place parent here : Location} {name : Name}
  {p q above : Path} {last : Last} {links : Nat} {front rest : List Name} {slash : Bool}
  {spot : Spot}

/-! ## Failures -/

/-- A path below one that leads to no directory leads to none. -/
theorem isDirectory_eq_false_below (habove : fs.isDirectory above = false)
    (hparent : p.parent? = some above) (hne : above.bytes ≠ []) : fs.isDirectory p = false := by
  refine Bool.eq_false_iff.mpr fun hdirectory => ?_
  obtain ⟨place, hfind⟩ := find_of_isDirectory hdirectory
  rw [isDirectory_parent hfind hparent hne] at habove
  cases habove

/-- A chain fails above its first path, or leaves no directory there. -/
theorem makeChain_cons_error {paths : List Path} {source : IoError}
    (hmake : before.makeChain (p :: paths) = (.error source, after)) :
    p.bytes ≠ []
      ∧ ((∃ cause, before.makeChain paths = (.error cause, after))
        ∨ after.isDirectory p = false) := by
  have hunmade {fs : FileSystem} {cause : IoError}
      (h : ((if fs.isDirectory p then .ok () else .error cause, fs) : Except IoError Unit
        × FileSystem) = (.error source, after)) : after.isDirectory p = false := by
    refine Bool.eq_false_iff.mpr fun hdirectory => ?_
    cases (forgiven_iff h).mpr hdirectory
  rw [makeChain] at hmake
  split at hmake
  · cases hmake
  · next hne =>
    refine ⟨hne, ?_⟩
    split at hmake
    · cases hmake
    · split at hmake
      · split at hmake
        · next cause _ hchain =>
          obtain ⟨-, rfl⟩ := Prod.mk.inj hmake
          exact .inl ⟨cause, hchain⟩
        · split at hmake
          · cases hmake
          · exact .inr (hunmade hmake)
      · exact .inr (hunmade hmake)

/-- A chain that fails changes nothing or leaves no directory at its first path. -/
theorem makeChain_upwards_error {fuel : Nat} {source : IoError}
    (hmake : before.makeChain (upwards fuel p) = (.error source, after)) :
    after = before ∨ (p.bytes ≠ [] ∧ after.isDirectory p = false) := by
  induction fuel generalizing p source with
  | zero => exact .inl (Prod.mk.inj hmake).2.symm
  | succ fuel ih =>
    rw [upwards] at hmake
    obtain ⟨hne, ⟨cause, hchain⟩ | hdirectory⟩ := makeChain_cons_error hmake
    · split at hchain
      · next above hparent =>
        rcases ih hchain with heq | ⟨haboveNe, habove⟩
        · exact .inl heq
        · exact .inr ⟨hne, isDirectory_eq_false_below habove hparent haboveNe⟩
      · exact .inl (Prod.mk.inj hchain).2.symm
    · exact .inr ⟨hne, hdirectory⟩

/-- Where a directory cannot be made, its path leads to none. -/
theorem isDirectory_of_makeDirectories_error {source : IoError}
    (hmake : before.makeDirectories p = (.error source, after)) : after.isDirectory p = false := by
  rcases makeChain_upwards_error hmake with rfl | ⟨-, hdirectory⟩
  · refine Bool.eq_false_iff.mpr fun hdirectory => ?_
    rw [makeDirectories_of_isDirectory hdirectory] at hmake
    nomatch hmake
  · exact hdirectory

/-! ## The first one -/

/-- What is made of a path and those above it begins with one directory, if there is anything to
    make. -/
theorem makeDirectories_first (fs : FileSystem) (p : Path) :
    (fs.makeDirectories p).2 = fs
      ∨ ∃ q made, (q = p ∨ Above q p) ∧ fs.makeDirectory q = .ok made
        ∧ Grows made (fs.makeDirectories p).2 := by
  -- growth is carried along, since what follows the first directory only has to keep it
  let R (before after : FileSystem) : Prop := Grows before after ∧ (after = before
    ∨ ∃ q made, (q = p ∨ Above q p) ∧ before.makeDirectory q = .ok made ∧ Grows made after)
  have hR : R fs (fs.makeDirectories p).2 := by
    refine makeDirectories_rel (fun fs => ⟨.refl fs, .inl rfl⟩) ?_ ?_ fs
    · rintro before between after ⟨hgrows, hfirst⟩ ⟨hlater, hsecond⟩
      refine ⟨hgrows.trans hlater, ?_⟩
      rcases hfirst with rfl | ⟨q, made, hq, hmake, hmade⟩
      · exact hsecond
      · exact .inr ⟨q, made, hq, hmake, hmade.trans hlater⟩
    · intro q hq before after hmake
      exact ⟨grows_makeDirectory hmake, .inr ⟨q, after, hq, hmake, .refl after⟩⟩
  exact hR.2

/-! ## Behind it -/

/-- A walk stays in the directory at a `.` and goes up at a `..`, since neither is ever the name
    of an entry. -/
theorem Leads.after_dots (h : Leads fs last links here (name :: rest) slash spot)
    (hdots : name = Path.dot ∨ name = Path.dotDot) :
    Leads fs last links (if name = Path.dot then here else here.tail) rest slash spot := by
  have huntaken {ended : Bool} {more : List Name} : ¬ Takes fs last ended here name more := by
    intro htakes
    exact hdots.elim htakes.ne_dot htakes.ne_dotDot
  cases h with
  | dot _ hrest => rwa [if_pos rfl]
  | dotDot _ hrest => rwa [if_neg (by decide)]
  | absent htakes => exact absurd htakes huntaken
  | itself htakes => exact absurd htakes huntaken
  | link htakes => exact absurd htakes huntaken
  | entry htakes => exact absurd htakes huntaken

/-- A walk over the name of an entry that is no link goes on from there. -/
theorem Leads.after_entry {entry : Entry} (h : Leads fs last links here (name :: rest) slash spot)
    (hdot : name ≠ Path.dot) (hdotDot : name ≠ Path.dotDot)
    (hat : fs.at? (name :: here) = some entry) (hentry : ∀ target, entry ≠ .link target) :
      Leads fs last links (name :: here) rest slash spot := by
  cases h with
  | dot => exact absurd rfl hdot
  | dotDot => exact absurd rfl hdotDot
  | absent _ hnone => rw [hat] at hnone; nomatch hnone
  | itself _ hlink => exact absurd (Option.some.inj (hat.symm.trans hlink)) (hentry _)
  | link _ hlink => exact absurd (Option.some.inj (hat.symm.trans hlink)) (hentry _)
  | entry _ _ _ hrest => exact hrest

/-- A walk to a target over the name of a link goes on with what the link says. -/
theorem Leads.after_link {target : Path} (h : Leads fs .target links here (name :: rest) slash spot)
    (hdot : name ≠ Path.dot) (hdotDot : name ≠ Path.dotDot)
    (hat : fs.at? (name :: here) = some (.link target)) :
    ∃ fewer later, Leads fs .target fewer (if target.isAbsolute then [] else here)
      (Path.components target.bytes ++ rest) later spot := by
  cases h with
  | dot => exact absurd rfl hdot
  | dotDot => exact absurd rfl hdotDot
  | absent _ hnone => rw [hat] at hnone; nomatch hnone
  | itself _ _ hlast => nomatch hlast
  | link _ hsame _ hrest =>
    obtain rfl := Entry.link.inj (Option.some.inj (hat.symm.trans hsame))
    exact ⟨_, _, hrest⟩
  | entry _ hsame hnoLink => exact absurd (Option.some.inj (hsame.symm.trans hat)) (hnoLink _)

/-- A walk over names that led to a free one goes on from the directory that is there now. -/
theorem Leads.behind {fewer : Nat} {ended found : Bool} {stop : Spot}
    (hfront : Leads before .itself fewer here front ended stop)
    (hstop : stop = .absent parent name found) (hgrows : Grows before after)
    (hdirectory : after.isDirectoryAt (name :: parent) = true)
    (h : Leads after .target links here (front ++ rest) slash spot) :
    ∃ links slash, Leads after .target links (name :: parent) rest slash spot := by
  -- the induction is on the walk to the free name, and the later walk is taken apart along with it
  induction hfront generalizing links rest slash with
  | done => nomatch hstop
  | itself => nomatch hstop
  | dot _ _ ih => exact ih hstop (h.after_dots (.inl rfl))
  | dotDot _ _ ih => exact ih hstop (h.after_dots (.inr rfl))
  | absent htakes _ =>
    obtain ⟨rfl, rfl, rfl⟩ := Spot.absent.inj hstop
    exact ⟨_, _, h.after_entry htakes.ne_dot htakes.ne_dotDot (isDirectoryAt_iff.mp hdirectory)
      (fun _ heq => nomatch heq)⟩
  | link htakes hat _ _ ih =>
    rw [List.cons_append] at h
    obtain ⟨fewer, later, hrest⟩ := h.after_link htakes.ne_dot htakes.ne_dotDot (hgrows.link hat)
    rw [← List.append_assoc] at hrest
    exact ih hstop hrest
  | entry htakes hat hentry _ ih =>
    obtain ⟨later, hlater, hnoLink⟩ := hgrows.entry hat hentry
    exact ih hstop (h.after_entry htakes.ne_dot htakes.ne_dotDot hlater hnoLink)

/-- A walk from a new place that never goes up ends at a new place. -/
theorem Leads.new {found : Bool} (h : Leads after .target links here rest slash spot)
    (htree : before.IsTree) (hfurnished : Furnished before after) (hhere : before.at? here = none)
    (hplain : Path.dotDot ∉ rest) (hspot : spot = .there place found) :
      before.at? place = none := by
  -- the walk stays below `here`, where there are new directories and no links to leave by
  induction h with
  | done =>
    obtain ⟨rfl, -⟩ := Spot.there.inj hspot
    exact hhere
  | dot _ _ ih => exact ih hhere (List.not_mem_of_not_mem_cons hplain) hspot
  | dotDot => exact absurd List.mem_cons_self hplain
  | absent => nomatch hspot
  | itself _ _ hlast => nomatch hlast
  | link _ hat =>
    rcases hfurnished (_ :: _) with heq | ⟨-, hdirectory⟩
    · rw [heq, htree.free_below hhere] at hat
      nomatch hat
    · rw [hdirectory] at hat
      nomatch hat
  | entry _ _ _ _ ih =>
    exact ih (htree.free_below hhere _) (List.not_mem_of_not_mem_cons hplain) hspot

/-- Where directories above a path were made, a path without `..` leads to something that was
    there all along only if it did so before. -/
theorem find_of_makeDirectories (htree : fs.IsTree) (habove : Above above p)
    (hplain : Path.dotDot ∉ Path.components p.bytes)
    (hfind : (fs.makeDirectories above).2.find p = .ok place) (hat : fs.at? place ≠ none) :
    fs.find p = .ok place := by
  rcases makeDirectories_first fs above with heq | ⟨q, made, hq, hmake, hgrows⟩
  · rwa [heq] at hfind
  · -- the walk over the path goes through the first new directory, and never leaves it again
    refine absurd ?_ hat
    have hqp : Above q p := by
      rcases hq with rfl | hq
      · exact habove
      · exact hq.trans habove
    have hfirst := grows_makeDirectory hmake
    obtain ⟨parent, name, slash, hlookUp, rfl⟩ := makeDirectory_eq_ok hmake
    obtain ⟨hpath, hfront⟩ := lookUpFor_eq_ok_iff.mp hlookUp
    obtain ⟨rest, -, hnames⟩ := hqp.names
    obtain ⟨-, found, hleads⟩ := find_leads hfind
    have hqne : q.bytes ≠ [] := by
      intro hnil
      rw [checkPath, hnil] at hpath
      split at hpath <;> simp at hpath
    have hdirectory : (fs.makeDirectories above).2.isDirectoryAt (name :: parent) = true := by
      refine hgrows.directory (isDirectoryAt_iff.mpr ?_)
      rw [at?_put fs (List.cons_ne_nil name parent), if_pos rfl]
    rw [hnames, (grows_makeDirectories fs above).startOf_eq,
      ← startOf_of_front hqp.front hqne] at hleads
    obtain ⟨fewer, later, hbehind⟩ :=
      hfront.behind rfl (grows_makeDirectories fs above) hdirectory hleads
    refine hbehind.new htree (furnished_makeDirectories fs above) (hfront.free rfl).2 ?_ rfl
    intro hmem
    exact hplain (hnames ▸ List.mem_append_right _ hmem)

end ProxyTrust.FileSystem
