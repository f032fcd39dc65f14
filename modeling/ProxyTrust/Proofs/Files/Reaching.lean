/-
  Paths that lead somewhere only since the directories above them were made.

  1. **New places** — a new directory is found under the path that was made, or under one above it
     (`found_of_new`).

  2. **Depth** — from a new place a walk without `..` goes down by one for every name, for there
     are no links to follow.  So the place that it ends at is below the one that it began at
     (`Leads.depth`), and no path without `..` leads to a new directory above it.

  3. **Both kinds of places** — with the entries that were there all along, a path without `..`
     leads nowhere that it did not lead before (`find_of_makeDirectories_parent`).
-/
import ProxyTrust.Proofs.Files.Joining
import ProxyTrust.Proofs.Files.NewDirectories

namespace ProxyTrust.FileSystem

open ProxyTrust.Path (Above)

variable {fs before after : FileSystem} {place here : Location} {p above : Path} {last : Last}
  {links : Nat} {rest : List Name} {slash : Bool} {spot : Spot}

/-! ## New places -/

theorem ne_none_of_isDirectoryAt (h : fs.isDirectoryAt place = true) : fs.at? place ≠ none := by
  rw [isDirectoryAt_iff.mp h]
  exact Option.some_ne_none _

/-- A walk from an entry in a tree ends at an entry. -/
theorem Leads.at?_ne_none {found : Bool} (h : Leads fs last links here rest slash spot)
    (hhere : fs.at? here ≠ none) (hstanding : Standing fs here)
    (hspot : spot = .there place found) :
    fs.at? place ≠ none := by
  induction h with
  | done =>
    obtain ⟨rfl, -⟩ := Spot.there.inj hspot
    exact hhere
  | dot _ _ ih => exact ih hhere hstanding hspot
  | dotDot _ _ ih => exact ih (ne_none_of_isDirectoryAt hstanding.tail.1) hstanding.tail.2 hspot
  | absent => nomatch hspot
  | itself _ hat _ =>
    obtain ⟨rfl, -⟩ := Spot.there.inj hspot
    rw [hat]
    exact Option.some_ne_none _
  | @link _ _ _ _ target _ _ htakes _ _ _ ih =>
    -- a link leads on from the root or from its own directory, and something is at both
    cases htarget : target.isAbsolute with
    | true => exact ih (by simp [htarget]) (by rw [htarget]; trivial) hspot
    | false => exact ih (by simpa [htarget] using hhere) (by simpa [htarget] using hstanding) hspot
  | entry htakes hat _ _ ih =>
    exact ih (by rw [hat]; exact Option.some_ne_none _) ⟨htakes.directory, hstanding⟩ hspot

/-- A path in a tree leads to an entry. -/
theorem IsTree.at?_of_find (htree : fs.IsTree) (hfind : fs.find p = .ok place) :
    fs.at? place ≠ none := by
  obtain ⟨slash, hlookUp, -⟩ := find_eq_ok_iff.mp hfind
  obtain ⟨hdirectory, hstanding⟩ := htree.start hlookUp
  obtain ⟨-, hleads⟩ := lookUpFor_eq_ok_iff.mp hlookUp
  exact hleads.at?_ne_none (ne_none_of_isDirectoryAt hdirectory) hstanding rfl

/-- What is new after directories were made is found under one of their paths. -/
theorem found_of_new (hnew : fs.at? place = none)
    (hthere : (fs.makeDirectories p).2.at? place ≠ none) :
    ∃ q, (q = p ∨ Above q p) ∧ (fs.makeDirectories p).2.find q = .ok place := by
  -- growth is carried along, since a path that leads to a directory goes on doing so
  let R (before after : FileSystem) : Prop :=
    Grows before after ∧ ∀ place, before.at? place = none →
    after.at? place ≠ none → ∃ q, (q = p ∨ Above q p) ∧ after.find q = .ok place
  have hR : R fs (fs.makeDirectories p).2 := by
    refine makeDirectories_rel
      (fun fs => ⟨.refl fs, fun place hnone hsome => absurd hnone hsome⟩) ?_ ?_ fs
    · rintro before between after ⟨hgrows, hfound⟩ ⟨hlater, hfoundLater⟩
      refine ⟨hgrows.trans hlater, fun place hnone hsome => ?_⟩
      by_cases hbetween : between.at? place = none
      · exact hfoundLater place hbetween hsome
      · obtain ⟨q, hq, hfind⟩ := hfound place hnone hbetween
        exact ⟨q, hq, hlater.find hfind⟩
    · intro q hq before after hmake
      refine ⟨grows_makeDirectory hmake, fun place hnone hsome => ?_⟩
      obtain ⟨made, -, -, hfind, hothers⟩ := makeDirectory_spec hmake
      by_cases hplace : place = made
      · exact ⟨q, hq, hplace ▸ hfind⟩
      · exact absurd ((hothers place hplace).trans hnone) hsome
  exact hR.2 place hnew hthere

/-! ## Depth -/

/-- From a new place a walk without `..` goes down by one for every name but `.`. -/
theorem Leads.depth {found : Bool} (h : Leads after .target links here rest slash spot)
    (htree : before.IsTree) (hfurnished : Furnished before after) (hhere : before.at? here = none)
    (hplain : Path.dotDot ∉ rest) (hspot : spot = .there place found) :
    place.length = here.length + (rest.filter (· ≠ Path.dot)).length := by
  induction h with
  | done =>
    obtain ⟨rfl, -⟩ := Spot.there.inj hspot
    rfl
  | dot _ _ ih => simpa using ih hhere (List.not_mem_of_not_mem_cons hplain) hspot
  | dotDot => exact absurd List.mem_cons_self hplain
  | absent => nomatch hspot
  | itself _ _ hlast => nomatch hlast
  | link _ hat =>
    -- nothing was below a place that was free, and what is there now is a directory
    rcases hfurnished (_ :: _) with heq | ⟨-, hdirectory⟩
    · rw [heq, htree.free_below hhere] at hat
      nomatch hat
    · rw [hdirectory] at hat
      nomatch hat
  | entry htakes _ _ _ ih =>
    have hdeeper := ih (htree.free_below hhere _) (List.not_mem_of_not_mem_cons hplain) hspot
    rw [List.length_cons] at hdeeper
    rw [List.filter_cons_of_pos (by simpa using htakes.ne_dot), List.length_cons]
    omega

/-- Where the directories above a path were made, a path without `..` leads nowhere that it did
    not lead before. -/
theorem find_of_makeDirectories_parent (htree : fs.IsTree) (hparent : p.parent? = some above)
    (hne : above.bytes ≠ []) (hplain : Path.dotDot ∉ Path.components p.bytes)
    (hfind : (fs.makeDirectories above).2.find p = .ok place) : fs.find p = .ok place := by
  by_cases hnew : fs.at? place = none
  · -- the place is a new directory, and so a path above this one leads to it
    obtain ⟨hpath, -⟩ := find_leads hfind
    have htreeAfter := (grows_makeDirectories fs above).isTree htree
    obtain ⟨q, hq, hfindAbove⟩ := found_of_new hnew (htreeAfter.at?_of_find hfind)
    obtain ⟨hfront, rest, ⟨name, hname, hdot⟩, hnames⟩ := Path.parent?_names hparent hne
    obtain ⟨between, hbetween⟩ :
        ∃ between, Path.components above.bytes = Path.components q.bytes ++ between := by
      rcases hq with rfl | hq
      · exact ⟨[], (List.append_nil _).symm⟩
      · obtain ⟨between, -, hbetween⟩ := hq.names
        exact ⟨between, hbetween⟩
    have hqfront : q.bytes <+: p.bytes := by
      rcases hq with rfl | hq
      · exact hfront
      · exact hq.front.trans hfront
    rw [hbetween, List.append_assoc] at hnames
    have hrest : between ++ rest ≠ [] :=
      List.append_ne_nil_of_right_ne_nil between (List.ne_nil_of_mem hname)
    obtain ⟨fewer, hwalk⟩ := lookUpFor_below hfindAbove hqfront hnames hrest hpath
    obtain ⟨slash, hlookUp, -⟩ := find_eq_ok_iff.mp hfind
    have hbelow := walk_eq_ok_iff.mp ((hwalk .target).symm.trans hlookUp)
    have hdepth := hbelow.depth htree (furnished_makeDirectories fs above) hnew
      (fun hmem => hplain (hnames ▸ List.mem_append_right _ hmem)) rfl
    have hkept : name ∈ (between ++ rest).filter (· ≠ Path.dot) :=
      List.mem_filter.mpr ⟨List.mem_append_right _ hname, by simpa using hdot⟩
    have hpos := List.length_pos_of_mem hkept
    omega
  · exact find_of_makeDirectories htree (Path.above_of_parent? hparent hne) hplain hfind hnew

end ProxyTrust.FileSystem
