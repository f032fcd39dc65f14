/-
  The directory above a path, by its text and in the files.

  1. **Text** — a path is split at its slashes into rows, and its parent is found by reading the
     rows from the back.  `parent?_names`: what the text tells about the directory above a path is
     a front part of that path, in bytes and in names.  Empty rows and those of a `.` tell
     nothing, so that more rows than one may be dropped, and the names that are left over are at
     least one.

  2. **Walks** — where a walk over names goes on after some of them, these lead to a directory
     (`Leads.passes`).  The induction is over the walk; a link on the way puts its own names in
     front, and the place that it leads to is the same for both.

  3. **Directories** — hence the directory above an existing path is there, and making it changes
     nothing (`makeDirectories_of_isDirectory`).
-/
import ProxyTrust.Proofs.Files.Growth

namespace ProxyTrust

namespace Path

/-! ## Rows between slashes -/

variable {bytes row : List UInt8} {rows : List (List UInt8)}

theorem splitSlashes_separator (bytes : List UInt8) :
    splitSlashes (separator :: bytes) = [] :: splitSlashes bytes := by
  rw [splitSlashes, List.foldr_cons, if_pos rfl]
  rfl

theorem splitSlashes_ne_nil (bytes : List UInt8) : splitSlashes bytes ≠ [] := by
  cases bytes with
  | nil => exact List.cons_ne_nil _ _
  | cons b bytes =>
    rw [splitSlashes, List.foldr_cons]
    split
    · exact List.cons_ne_nil _ _
    · split <;> exact List.cons_ne_nil _ _

/-- Any other byte stands in front of the first row. -/
theorem splitSlashes_cons {b : UInt8} (hb : b ≠ separator) (bytes : List UInt8) :
    ∃ row rows, splitSlashes bytes = row :: rows
      ∧ splitSlashes (b :: bytes) = (b :: row) :: rows := by
  cases hsplit : splitSlashes bytes with
  | nil => exact absurd hsplit (splitSlashes_ne_nil bytes)
  | cons row rows =>
    refine ⟨row, rows, rfl, ?_⟩
    rw [splitSlashes] at hsplit
    rw [splitSlashes, List.foldr_cons, if_neg hb, hsplit]

/-- No row holds a slash. -/
theorem not_mem_of_mem_splitSlashes : ∀ row ∈ splitSlashes bytes, separator ∉ row := by
  induction bytes with
  | nil =>
    intro row hrow
    rw [List.mem_singleton.mp hrow]
    exact List.not_mem_nil
  | cons b bytes ih =>
    by_cases hb : b = separator
    · subst hb
      rw [splitSlashes_separator]
      exact List.forall_mem_cons.mpr ⟨List.not_mem_nil, ih⟩
    · -- the byte joins the first row, and it is no slash
      obtain ⟨row, rows, hsplit, hstep⟩ := splitSlashes_cons hb bytes
      rw [hsplit] at ih
      obtain ⟨hrow, hrows⟩ := List.forall_mem_cons.mp ih
      rw [hstep]
      refine List.forall_mem_cons.mpr ⟨?_, hrows⟩
      intro hmem
      rcases List.mem_cons.mp hmem with heq | hmem
      · exact hb heq.symm
      · exact hrow hmem

theorem joinRows_cons (row : List UInt8) (hrows : rows ≠ []) :
    joinRows (row :: rows) = row ++ separator :: joinRows rows := by
  cases rows with
  | nil => exact absurd rfl hrows
  | cons next rows =>
    rw [joinRows, List.append_assoc]
    · rfl
    · exact List.cons_ne_nil _ _

/-- The rows of a path with slashes between them are the path. -/
theorem joinRows_splitSlashes (bytes : List UInt8) : joinRows (splitSlashes bytes) = bytes := by
  induction bytes with
  | nil => rfl
  | cons b bytes ih =>
    by_cases hb : b = separator
    · subst hb
      rw [splitSlashes_separator, joinRows_cons [] (splitSlashes_ne_nil bytes), ih]
      rfl
    · obtain ⟨row, rows, hsplit, hstep⟩ := splitSlashes_cons hb bytes
      rw [hstep, ← ih, hsplit]
      cases rows with
      | nil => rfl
      | cons next rows =>
        rw [joinRows_cons _ (List.cons_ne_nil next rows),
          joinRows_cons _ (List.cons_ne_nil next rows)]
        rfl

theorem splitSlashes_row (hrow : separator ∉ row) : splitSlashes row = [row] := by
  induction row with
  | nil => rfl
  | cons b row ih =>
    obtain ⟨first, rows, hsplit, hstep⟩ := splitSlashes_cons (List.ne_of_not_mem_cons hrow).symm row
    rw [ih (List.not_mem_of_not_mem_cons hrow)] at hsplit
    obtain ⟨rfl, rfl⟩ := List.cons.inj hsplit
    exact hstep

/-- A text with a slash in it is split into the rows before it and the rows after it. -/
theorem splitSlashes_append_separator (front back : List UInt8) :
    splitSlashes (front ++ separator :: back) = splitSlashes front ++ splitSlashes back := by
  induction front with
  | nil => exact splitSlashes_separator back
  | cons b front ih =>
    rw [List.cons_append]
    by_cases hb : b = separator
    · subst hb
      rw [splitSlashes_separator, splitSlashes_separator, ih]
      rfl
    · obtain ⟨row, rows, hsplit, hstep⟩ := splitSlashes_cons hb front
      obtain ⟨whole, others, hwhole, hnext⟩ := splitSlashes_cons hb (front ++ separator :: back)
      rw [ih, hsplit] at hwhole
      obtain ⟨rfl, rfl⟩ := List.cons.inj hwhole
      rw [hstep, hnext]
      rfl

theorem splitSlashes_append (hrow : separator ∉ row) (bytes : List UInt8) :
    splitSlashes (row ++ separator :: bytes) = row :: splitSlashes bytes := by
  rw [splitSlashes_append_separator, splitSlashes_row hrow]
  rfl

/-- The names before a slash and those after it. -/
theorem components_append_separator (front back : List UInt8) :
    components (front ++ separator :: back) = components front ++ components back := by
  rw [components, splitSlashes_append_separator, List.filter_append]
  rfl

/-- The names of rows with slashes between them are the rows that are not empty. -/
theorem components_joinRows (hrows : ∀ row ∈ rows, separator ∉ row) :
    components (joinRows rows) = rows.filter (! ·.isEmpty) := by
  have hsplit : rows ≠ [] → splitSlashes (joinRows rows) = rows := by
    induction rows with
    | nil => exact fun hne => absurd rfl hne
    | cons row rows ih =>
      intro _
      obtain ⟨hrow, hrows⟩ := List.forall_mem_cons.mp hrows
      cases rows with
      | nil => exact splitSlashes_row hrow
      | cons next rows =>
        have hne : next :: rows ≠ [] := List.cons_ne_nil next rows
        rw [joinRows_cons row hne, splitSlashes_append hrow, ih hrows hne]
  by_cases hne : rows = []
  · subst hne
    rfl
  · rw [components, hsplit hne]

/-- More rows after some are more text after theirs. -/
theorem joinRows_append (rows extra : List (List UInt8)) :
    joinRows rows <+: joinRows (rows ++ extra) := by
  induction rows with
  | nil => exact List.nil_prefix
  | cons row rows ih =>
    cases rows with
    | nil =>
      cases extra with
      | nil => exact List.prefix_rfl
      | cons next extra =>
        rw [List.cons_append, List.nil_append, joinRows_cons row (List.cons_ne_nil next extra)]
        exact List.prefix_append row _
    | cons next rows =>
      have hmore : next :: rows ++ extra ≠ [] := List.cons_ne_nil next (rows ++ extra)
      rw [List.cons_append, joinRows_cons row (List.cons_ne_nil next rows), joinRows_cons row hmore]
      exact (List.prefix_append_right_inj row).mpr ((List.prefix_cons_inj separator).mpr ih)

/-! ## The directory above -/

/-- The rows that a start stands for. -/
def Start.opening : Start → List (List UInt8)
  | .root => [[]]
  | .here => [dot]
  | .name => []

/-- The rows of a text are those that its start opens it with, and the ones of its body. -/
theorem splitSlashes_eq_body (bytes : List UInt8) :
    splitSlashes bytes = (body bytes).1.opening ++ (body bytes).2 := by
  rw [body]
  split
  · next first rest hsplit =>
    rw [hsplit]
    split
    · next hdot =>
      rw [hdot]
      rfl
    · split
      · next hroot =>
        have hempty : first = [] := List.isEmpty_iff.mp (Bool.and_eq_true_iff.mp hroot).1
        rw [hempty]
        rfl
      · rfl
  · next hsplit => exact absurd hsplit (splitSlashes_ne_nil bytes)

/-- The names of a body are its rows that are not empty. -/
theorem components_ofBody (start : Start) (hrows : ∀ row ∈ rows, separator ∉ row) :
    components (ofBody start rows).bytes = (start.opening ++ rows).filter (! ·.isEmpty) := by
  cases start with
  | root =>
    have hslash : components (separator :: joinRows rows) = components (joinRows rows) := by
      rw [components, splitSlashes_separator]
      rfl
    exact hslash.trans (components_joinRows hrows)
  | here => exact components_joinRows (List.forall_mem_cons.mpr ⟨by decide, hrows⟩)
  | name => exact components_joinRows hrows

/-- A path of some rows is a front part of one with more of them. -/
theorem ofBody_front (start : Start) (rows : List (List UInt8)) {extra : List (List UInt8)}
    (hextra : extra ≠ []) :
    (ofBody start rows).bytes <+: joinRows (start.opening ++ (rows ++ extra)) := by
  cases start with
  | root =>
    have hmore : rows ++ extra ≠ [] := List.append_ne_nil_of_right_ne_nil rows hextra
    have hjoin : joinRows (Start.root.opening ++ (rows ++ extra))
        = separator :: joinRows (rows ++ extra) := joinRows_cons [] hmore
    rw [hjoin]
    exact (List.prefix_cons_inj separator).mpr (joinRows_append rows extra)
  | here => exact joinRows_append (dot :: rows) extra
  | name => exact joinRows_append rows extra

/-- The last name of a path names something. -/
theorem not_isIdle_of_rowsBack {last : List UInt8} {before : List (List UInt8)}
    (h : rowsBack bytes = last :: before) : ¬ isIdle last = true := by
  have hhead : (rowsBack bytes).head? = some last := by rw [h]; rfl
  have hkept := List.head?_dropWhile_not isIdle (body bytes).2.reverse
  rw [rowsBack] at hhead
  rw [hhead] at hkept
  simpa using hkept

/-- The rows of a path up to the directory above, and the rest with the last name in it. -/
theorem body_of_rowsBack {last : List UInt8} {before : List (List UInt8)}
    (h : rowsBack bytes = last :: before) :
    ∃ extra, (body bytes).2 = (before.dropWhile isIdle).reverse ++ extra ∧ last ∈ extra
      ∧ last ≠ [] := by
  -- reading from the back, idle rows are dropped, then there is the last row that counts
  have hlast := not_isIdle_of_rowsBack h
  have hback : (body bytes).2.reverse.takeWhile isIdle ++ last :: before
      = (body bytes).2.reverse := by
    rw [← h, rowsBack, List.takeWhile_append_dropWhile]
  have hrows : (body bytes).2
      = before.reverse ++ last :: ((body bytes).2.reverse.takeWhile isIdle).reverse := by
    have hreverse := congrArg List.reverse hback
    rw [List.reverse_reverse, List.reverse_append, List.reverse_cons, List.append_assoc] at hreverse
    exact hreverse.symm
  have hbefore : before.reverse
      = (before.dropWhile isIdle).reverse ++ (before.takeWhile isIdle).reverse := by
    rw [← List.reverse_append, List.takeWhile_append_dropWhile]
  refine ⟨(before.takeWhile isIdle).reverse ++ last
    :: ((body bytes).2.reverse.takeWhile isIdle).reverse, ?_, ?_, ?_⟩
  · rw [← List.append_assoc, ← hbefore]
    exact hrows
  · exact List.mem_append_right _ (List.mem_cons_self ..)
  · rintro rfl
    exact hlast rfl

/-- The name of a file is not empty and holds no slash. -/
theorem fileName?_spec {p : Path} (h : p.fileName? = some row) : row ≠ [] ∧ separator ∉ row := by
  rw [fileName?] at h
  split at h
  · next last before hback =>
    obtain ⟨extra, hrows, hlast, hname⟩ := body_of_rowsBack hback
    split at h
    · nomatch h
    · obtain rfl := Option.some.inj h
      have hmem : last ∈ splitSlashes p.bytes := by
        rw [splitSlashes_eq_body, hrows]
        exact List.mem_append_right _ (List.mem_append_right _ hlast)
      exact ⟨hname, not_mem_of_mem_splitSlashes last hmem⟩
  · nomatch h

/-- The name of a file is neither of the two that every directory holds. -/
theorem fileName?_plain {p : Path} (h : p.fileName? = some row) : row ≠ dot ∧ row ≠ dotDot := by
  rw [fileName?] at h
  split at h
  · next last before hback =>
    split at h
    · nomatch h
    · next hup =>
      obtain rfl := Option.some.inj h
      refine ⟨?_, hup⟩
      rintro rfl
      exact not_isIdle_of_rowsBack hback (by decide)
  · nomatch h

/-- What the text of a path tells about the directory above is a front part of the path, and a
    name that is no `.` comes after it. -/
theorem parent?_names {p above : Path} (h : p.parent? = some above) (hne : above.bytes ≠ []) :
    above.bytes <+: p.bytes
      ∧ ∃ rest, (∃ name ∈ rest, name ≠ dot)
        ∧ components p.bytes = components above.bytes ++ rest := by
  rw [parent?] at h
  split at h
  · next last before hback =>
    obtain rfl := Option.some.inj h
    obtain ⟨extra, hrows, hlast, hname⟩ := body_of_rowsBack hback
    have hsplit : splitSlashes p.bytes
        = (body p.bytes).1.opening ++ ((before.dropWhile isIdle).reverse ++ extra) := by
      rw [splitSlashes_eq_body, hrows]
    constructor
    · have hfront := ofBody_front (body p.bytes).1 (before.dropWhile isIdle).reverse
        (List.ne_nil_of_mem hlast)
      rwa [← hsplit, joinRows_splitSlashes] at hfront
    · -- the names that are left over are those of the dropped rows, and the last of them is no
      -- `.`
      refine ⟨extra.filter (! ·.isEmpty),
        ⟨last, List.mem_filter.mpr ⟨hlast, by simpa using hname⟩, ?_⟩, ?_⟩
      · rintro rfl
        exact not_isIdle_of_rowsBack hback (by decide)
      · have hplain : ∀ row ∈ (before.dropWhile isIdle).reverse, separator ∉ row := by
          intro row hrow
          have hmem : row ∈ splitSlashes p.bytes := by
            rw [hsplit]
            exact List.mem_append_right _ (List.mem_append_left _ hrow)
          exact not_mem_of_mem_splitSlashes row hmem
        rw [components_ofBody _ hplain, components, hsplit, ← List.append_assoc, List.filter_append]
  · split at h
    · obtain rfl := Option.some.inj h
      exact absurd rfl hne
    · cases h

/-- The directory above a path is a front part of it, in bytes and in names. -/
theorem parent?_spec {p above : Path} (h : p.parent? = some above) (hne : above.bytes ≠ []) :
    above.bytes <+: p.bytes
      ∧ ∃ rest, rest ≠ [] ∧ components p.bytes = components above.bytes ++ rest := by
  obtain ⟨hfront, rest, ⟨name, hname, -⟩, hnames⟩ := parent?_names h hne
  exact ⟨hfront, rest, List.ne_nil_of_mem hname, hnames⟩

end Path

namespace FileSystem

variable {fs : FileSystem} {here place : Location} {front rest : List Name} {links : Nat}
  {slash : Bool} {spot : Spot} {p above : Path}

/-! ## Walks -/

/-- A walk over the names ends at a directory, whatever follows the last of them. -/
structure Passes (fs : FileSystem) (links : Nat) (here : Location) (front : List Name)
    (place : Location) : Prop where
  directory : fs.isDirectoryAt place = true
  ends : ∀ ended, ∃ found, Leads fs .target links here front ended (.there place found)
  /-- So does the walk that names the directory once more. -/
  dotted : Leads fs .target links here (front ++ [Path.dot]) false (.there place false)

theorem Passes.nil (hdirectory : fs.isDirectoryAt here = true) : Passes fs links here [] here :=
  ⟨hdirectory, fun ended => ⟨ended, .done⟩, .dot hdirectory .done⟩

/-- A name in front that every walk from here gets over. -/
theorem Passes.cons {name : Name} {next : Location} (h : Passes fs links next front place)
    (hstep : ∀ {more ended spot}, Leads fs .target links next more ended spot →
      Leads fs .target links here (name :: more) ended spot) :
    Passes fs links here (name :: front) place := by
  refine ⟨h.directory, ?_, hstep h.dotted⟩
  intro ended
  obtain ⟨found, hends⟩ := h.ends ended
  exact ⟨found, hstep hends⟩

/-- A walk to a target takes a name whatever follows it. -/
theorem Takes.target {name : Name} {more : List Name} {ended : Bool}
    (h : Takes fs .target slash here name rest) : Takes fs .target ended here name more :=
  ⟨h.directory, h.ne_dot, h.ne_dotDot, (fun hmade => nomatch hmade.2.2), h.short⟩

/-- Where a walk goes on after the first names, these lead to a directory. -/
theorem Leads.passes (h : Leads fs .target links here (front ++ rest) slash spot)
    (hrest : rest ≠ []) : ∃ place, Passes fs links here front place := by
  generalize hnames : front ++ rest = names at h
  -- in each case the walk has taken all names before the rest, or its first name is among them
  induction h generalizing front with
  | done => exact absurd (List.append_eq_nil_iff.mp hnames).2 hrest
  | dot hdirectory _ ih =>
    rcases front with _ | ⟨name, front⟩
    · exact ⟨_, .nil hdirectory⟩
    · rw [List.cons_append] at hnames
      obtain ⟨rfl, hrestNames⟩ := List.cons.inj hnames
      obtain ⟨place, hpasses⟩ := ih hrestNames
      exact ⟨place, hpasses.cons (.dot hdirectory)⟩
  | dotDot hdirectory _ ih =>
    rcases front with _ | ⟨name, front⟩
    · exact ⟨_, .nil hdirectory⟩
    · rw [List.cons_append] at hnames
      obtain ⟨rfl, hrestNames⟩ := List.cons.inj hnames
      obtain ⟨place, hpasses⟩ := ih hrestNames
      exact ⟨place, hpasses.cons (.dotDot hdirectory)⟩
  | absent htakes _ =>
    rcases front with _ | ⟨name, front⟩
    · exact ⟨_, .nil htakes.directory⟩
    · obtain ⟨-, hnames⟩ := List.cons.inj hnames
      exact absurd (List.append_eq_nil_iff.mp hnames).2 hrest
  | itself _ _ hlast => nomatch hlast
  | @link links here name after target slash spot htakes hat hlast _ ih =>
    rcases front with _ | ⟨first, front⟩
    · exact ⟨_, .nil htakes.directory⟩
    · rw [List.cons_append] at hnames
      obtain ⟨rfl, rfl⟩ := List.cons.inj hnames
      obtain ⟨place, hpasses⟩ := ih (List.append_assoc (Path.components target.bytes) front rest)
      refine ⟨place, hpasses.directory, ?_, ?_⟩
      · intro ended
        obtain ⟨found, hends⟩ := hpasses.ends
          (if front = [] then ended || Path.endsInSlash target.bytes else ended)
        exact ⟨found, .link htakes.target hat (fun hall => nomatch hall.2) hends⟩
      · have hmore : ¬ front ++ [Path.dot] = [] := by simp
        rw [List.cons_append]
        refine .link htakes.target hat (fun hall => nomatch hall.2) ?_
        rw [if_neg hmore, ← List.append_assoc]
        exact hpasses.dotted
  | @entry links here name after entry slash spot htakes hat hentry _ ih =>
    rcases front with _ | ⟨first, front⟩
    · exact ⟨_, .nil htakes.directory⟩
    · rw [List.cons_append] at hnames
      obtain ⟨rfl, rfl⟩ := List.cons.inj hnames
      obtain ⟨place, hpasses⟩ := ih rfl
      exact ⟨place, hpasses.cons (.entry htakes.target hat hentry)⟩

/-! ## Directories -/

/-- A path that leads to a place does so by a walk over its names. -/
theorem find_leads (hfind : fs.find p = .ok place) :
    checkPath p = .ok () ∧ ∃ found, Leads fs .target linkLimit (fs.startOf p)
      (Path.components p.bytes) (Path.endsInSlash p.bytes) (.there place found) := by
  obtain ⟨found, hlookUp, -⟩ := find_eq_ok_iff.mp hfind
  obtain ⟨hpath, hleads⟩ := lookUpFor_eq_ok_iff.mp hlookUp
  exact ⟨hpath, found, hleads⟩

/-- Where something is found, no directory can be made. -/
theorem makeDirectory_of_find (hfind : fs.find p = .ok place) :
    fs.makeDirectory p = .error .exists_ := by
  obtain ⟨hpath, found, hleads⟩ := find_leads hfind
  rw [makeDirectory, hpath]
  simp only
  cases hnames : (Path.components p.bytes).getLast? with
  | none => rfl
  | some last =>
    simp only
    split
    · -- the text ends in `.` or `..`, and the directory before that is walked to
      have hsplit : Path.components p.bytes = (Path.components p.bytes).dropLast ++ [last] := by
        obtain ⟨others, hothers⟩ := List.getLast?_eq_some_iff.mp hnames
        rw [hothers, List.dropLast_concat]
      rw [hsplit] at hleads
      obtain ⟨mid, hpasses⟩ := hleads.passes (List.cons_ne_nil last [])
      rw [walk_eq_ok_iff.mpr hpasses.dotted]
    · obtain ⟨stop, hstop, hends⟩ := hleads.itself_of_target
      have hself : fs.lookUpSelf p = .ok stop := lookUpFor_eq_ok_iff.mpr ⟨hpath, hstop⟩
      have hthere : ∃ entryPlace ended, stop = .there entryPlace ended := by
        rcases hends with rfl | ⟨entryPlace, target, rfl, -⟩
        · exact ⟨_, _, rfl⟩
        · exact ⟨_, _, rfl⟩
      obtain ⟨entryPlace, ended, rfl⟩ := hthere
      rw [hself]

/-- A path that leads to a directory leads somewhere. -/
theorem find_of_isDirectory (hdirectory : fs.isDirectory p = true) :
    ∃ place, fs.find p = .ok place := by
  rw [isDirectory] at hdirectory
  cases hfind : fs.find p with
  | error e => rw [hfind] at hdirectory; cases hdirectory
  | ok place => exact ⟨place, rfl⟩

/-- Where the first path of a chain leads to a directory, nothing has to be made. -/
theorem makeChain_of_isDirectory (hdirectory : fs.isDirectory p = true) (paths : List Path) :
    fs.makeChain (p :: paths) = (.ok (), fs) := by
  obtain ⟨place, hfind⟩ := find_of_isDirectory hdirectory
  rw [makeChain, makeDirectory_of_find hfind, hdirectory]
  split
  · rfl
  · exact if_neg (by decide)

/-- Making a directory that is there changes nothing. -/
theorem makeDirectories_of_isDirectory (hdirectory : fs.isDirectory p = true) :
    fs.makeDirectories p = (.ok (), fs) :=
  makeChain_of_isDirectory hdirectory _

/-- A front part of a path begins where the path does. -/
theorem startOf_of_front (hfront : above.bytes <+: p.bytes) (hne : above.bytes ≠ []) :
    fs.startOf above = fs.startOf p := by
  have hhead : above.bytes.head? = p.bytes.head? := by
    obtain ⟨after, hafter⟩ := hfront
    obtain ⟨b, bytes, hbytes⟩ := List.exists_cons_of_ne_nil hne
    rw [← hafter, hbytes]
    rfl
  rw [startOf, startOf, Path.isAbsolute, Path.isAbsolute, hhead]

/-- A front part of a path passes the check that the path passes. -/
theorem checkPath_of_front (hpath : checkPath p = .ok ()) (hfront : above.bytes <+: p.bytes)
    (hne : above.bytes ≠ []) : checkPath above = .ok () := by
  rw [checkPath] at hpath
  split at hpath
  · cases hpath
  · next hnul =>
    split at hpath
    · cases hpath
    · split at hpath
      · cases hpath
      · next hlimit =>
        have hplain : ¬ above.hasNul = true := by
          intro hmem
          rw [Path.hasNul, List.contains_iff_mem] at hmem hnul
          exact hnul (hfront.subset hmem)
        have hlength := hfront.length_le
        rw [checkPath, if_neg hplain, if_neg hne, if_neg (by omega)]

/-- The directory above an existing path is there. -/
theorem isDirectory_parent (hfind : fs.find p = .ok place) (hparent : p.parent? = some above)
    (hne : above.bytes ≠ []) : fs.isDirectory above = true := by
  obtain ⟨hfront, rest, hrest, hnames⟩ := Path.parent?_spec hparent hne
  obtain ⟨hpath, found, hleads⟩ := find_leads hfind
  rw [hnames] at hleads
  obtain ⟨mid, hpasses⟩ := hleads.passes hrest
  obtain ⟨ended, hends⟩ := hpasses.ends (Path.endsInSlash above.bytes)
  have habove : fs.find above = .ok mid := by
    refine find_eq_ok_iff.mpr ⟨ended, lookUpFor_eq_ok_iff.mpr ⟨?_, ?_⟩, fun _ => hpasses.directory⟩
    · exact checkPath_of_front hpath hfront hne
    · rw [startOf_of_front hfront hne]
      exact hends
  rw [isDirectory, habove]
  exact hpasses.directory

end FileSystem

end ProxyTrust
