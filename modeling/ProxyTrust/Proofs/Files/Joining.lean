/-
  Walks that go on from a directory above.

  1. **Names that are taken** — whether a name is taken as an entry depends on what is wanted only
     where it is the last one.  So the names of the first part are taken the same way in the
     longer walk, whatever is wanted at its end (`Takes.of_target`).

  2. **Joining** — a walk over more names than lead to a place is a walk from that place over the
     rest, with the links that are left, whatever is wanted of the last name and whether it
     succeeds or not (`Leads.append`).  The induction is over the walk to the place; what comes
     after it is left open, as the target of a link puts more names in front of it.

  3. **Paths** — so a path is looked up from the directory above it (`lookUpFor_below`).
-/
import ProxyTrust.Proofs.Files.Footprint

namespace ProxyTrust.FileSystem

variable {fs : FileSystem} {last : Last} {links : Nat} {here place : Location} {name : Name}
  {front rest more : List Name} {slash ended : Bool} {spot : Spot} {p above : Path}

/-- A name that a walk to a target takes is taken with more names behind it, whatever is wanted of
    the last. -/
theorem Takes.of_target (h : Takes fs .target ended here name rest) (hmore : more ≠ []) :
    Takes fs last slash here name more :=
  ⟨h.directory, h.ne_dot, h.ne_dotDot, fun hmade => hmore hmade.1, h.short⟩

/-- After the names that lead to a place, a walk goes on from there. -/
theorem Leads.append {found : Bool} (h : Leads fs .target links here front ended spot)
    (hspot : spot = .there place found) (hrest : rest ≠ []) :
    ∃ fewer, ∀ last slash, fs.walk last links here (front ++ rest) slash
      = fs.walk last fewer place rest slash := by
  -- by the steps of the first walk; what is wanted of the last name plays no part in them, as
  -- names follow
  induction h with
  | @done links here _ =>
    obtain ⟨rfl, -⟩ := Spot.there.inj hspot
    exact ⟨links, fun _ _ => rfl⟩
  | dot hdirectory _ ih =>
    obtain ⟨fewer, hwalk⟩ := ih hspot
    refine ⟨fewer, fun last slash => ?_⟩
    rw [← hwalk, List.cons_append, walk_eq, walkNames, if_neg (by simp [hdirectory]), if_pos rfl,
      ← walk_eq]
  | dotDot hdirectory _ ih =>
    obtain ⟨fewer, hwalk⟩ := ih hspot
    refine ⟨fewer, fun last slash => ?_⟩
    rw [← hwalk, List.cons_append, walk_eq, walkNames, if_neg (by simp [hdirectory]),
      if_neg (by decide), if_pos rfl, ← walk_eq]
  | absent => cases hspot
  | itself _ _ hlast => cases hlast
  | @link _ _ _ after target _ _ htakes hat _ _ ih =>
    obtain ⟨fewer, hwalk⟩ := ih hspot
    have hmore : after ++ rest ≠ [] := List.append_ne_nil_of_right_ne_nil after hrest
    refine ⟨fewer, fun last slash => ?_⟩
    rw [← hwalk, List.cons_append, walk_eq, walkNames_takes (htakes.of_target hmore), hat,
      List.append_assoc]
    simp only [hmore, decide_false, Bool.false_and, Bool.false_eq_true, if_false]
    rfl
  | @entry _ _ _ after entry _ _ htakes hat hentry _ ih =>
    obtain ⟨fewer, hwalk⟩ := ih hspot
    have hmore : after ++ rest ≠ [] := List.append_ne_nil_of_right_ne_nil after hrest
    refine ⟨fewer, fun last slash => ?_⟩
    rw [← hwalk, List.cons_append, walk_eq, walkNames_takes (htakes.of_target hmore), hat]
    cases entry with
    | link target => exact absurd rfl (hentry target)
    | file content mode => rw [← walk_eq]
    | directory => rw [← walk_eq]

/-- A path is looked up from where one above it leads. -/
theorem lookUpFor_below (hfind : fs.find above = .ok place) (hfront : above.bytes <+: p.bytes)
    (hnames : Path.components p.bytes = Path.components above.bytes ++ rest) (hrest : rest ≠ [])
    (hpath : checkPath p = .ok ()) :
    ∃ fewer, ∀ last, fs.lookUpFor last p
      = fs.walk last fewer place rest (Path.endsInSlash p.bytes) := by
  obtain ⟨habove, found, hleads⟩ := find_leads hfind
  have hne : above.bytes ≠ [] := by
    intro hnil
    rw [checkPath, hnil] at habove
    split at habove <;> simp at habove
  obtain ⟨fewer, hwalk⟩ := hleads.append rfl hrest
  refine ⟨fewer, fun last => ?_⟩
  rw [lookUpFor, hpath]
  simp only
  rw [hnames, ← startOf_of_front hfront hne]
  exact hwalk last _

end ProxyTrust.FileSystem
