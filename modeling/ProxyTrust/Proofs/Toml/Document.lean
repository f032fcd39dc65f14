/-
  Documents of strings that were written, read again.

  1. **Beginnings** — a statement begins with a character that no blank line begins with, so that
     nothing before it is skipped but line ends.  `Opens` says what that takes of a character; the
     characters of a bare name have it, and so has the bracket of a header.

  2. **Statements** — a written pair is read as a pair and a header as a header, whatever follows
     the line.  The key ends at the space in front of the equals sign, and the value at its
     closing quote.

  3. **Tables** — pairs of different names are all kept, in their order: by induction on the
     pairs, each name is free when its turn comes, and the entry goes to the end.

  4. **Documents** — hence a document of strings, with one table of strings after them, is read as
     what was written (`parse?_written`).  Every statement takes at least one character, so that
     the length of the text is fuel enough.
-/
import ProxyTrust.Proofs.Toml.Strings
import ProxyTrust.Toml.Document

namespace ProxyTrust.Toml

variable {c : Char} {name : String} {text rest after : List Char} {fuel : Nat}

/-! ## Beginnings -/

/-- A name that is written without quotes. -/
structure Bare (name : String) : Prop where
  ne_nil : name.toList ≠ []
  isBare : ∀ c ∈ name.toList, isBare c = true

/-- A name of bare characters needs no quotes. -/
theorem bare_of_all {name : String} (hne : name.toList ≠ [])
    (hall : name.toList.all isBare = true) : Bare name :=
  ⟨hne, List.all_eq_true.mp hall⟩

theorem ne_of_isBare {d : Char} (hc : isBare c = true) (hd : isBare d = false) : c ≠ d := by
  rintro rfl
  rw [hc] at hd
  nomatch hd

/-- A statement may begin with the character. -/
structure Opens (c : Char) : Prop where
  isSpace : isSpace c = false
  ne_hash : c ≠ '#'
  ne_feed : c ≠ '\n'
  ne_return : c ≠ '\r'

/-- A bare character begins a statement, and so does the bracket of a header. -/
theorem opens_of_isBare (hc : isBare c = true) : Opens c where
  isSpace := by
    have hspace : c ≠ ' ' := ne_of_isBare hc (by decide)
    have htab : c ≠ '\t' := ne_of_isBare hc (by decide)
    simp [isSpace, hspace, htab]
  ne_hash := ne_of_isBare hc (by decide)
  ne_feed := ne_of_isBare hc (by decide)
  ne_return := ne_of_isBare hc (by decide)

theorem opens_bracket : Opens '[' := ⟨by decide, by decide, by decide, by decide⟩

theorem Bare.cons (h : Bare name) :
    ∃ c more, name.toList = c :: more ∧ Toml.isBare c = true := by
  obtain ⟨c, more, hname⟩ := List.exists_cons_of_ne_nil h.ne_nil
  exact ⟨c, more, hname, h.isBare c (by rw [hname]; exact List.mem_cons_self)⟩

theorem skipSpaces_cons (h : isSpace c = false) (rest : List Char) :
    skipSpaces (c :: rest) = c :: rest := by
  rw [skipSpaces, List.dropWhile_cons, h, if_neg Bool.false_ne_true]

theorem skipComment_cons (h : Opens c) (rest : List Char) :
    skipComment (c :: rest) = c :: rest := by
  rw [skipComment]
  exact fun _ heq => h.ne_hash (List.cons.inj heq).1

/-- No blank line is skipped before a statement. -/
theorem skipBlankLines_cons (h : Opens c) (fuel : Nat) (rest : List Char) :
    skipBlankLines fuel (c :: rest) = c :: rest := by
  cases fuel with
  | zero => rfl
  | succ fuel =>
    have hline : newline? (c :: rest) = none := by
      rw [newline?]
      · exact fun _ heq => h.ne_feed (List.cons.inj heq).1
      · exact fun _ heq => h.ne_return (List.cons.inj heq).1
    rw [skipBlankLines, skipSpaces_cons h.isSpace, skipComment_cons h, hline]

/-- Where a statement begins, nothing is skipped. -/
theorem skipAll_cons (h : Opens c) (rest : List Char) : skipAll (c :: rest) = c :: rest :=
  skipBlankLines_cons h _ rest

/-- An empty line is skipped before a statement. -/
theorem skipAll_newline (h : Opens c) (rest : List Char) :
    skipAll ('\n' :: c :: rest) = c :: rest := by
  show skipBlankLines ((c :: rest).length + 1) (c :: rest) = c :: rest
  exact skipBlankLines_cons h _ rest

/-! ## Statements -/

/-- A name without quotes is read up to the sign or bracket after it. -/
theorem key_bare (hname : Bare name) (hstop : ∀ c, rest.head? = some c → isBare c = false)
    (hdot : (skipSpaces rest).head? ≠ some '.') :
    key (name.toList ++ rest) = some (([], name), skipSpaces rest) := by
  obtain ⟨c, more, hcons, hc⟩ := hname.cons
  -- the first part is the whole name,
  have hpart : keyPart (skipSpaces (name.toList ++ rest)) = some (name, rest) := by
    have hskip : skipSpaces (name.toList ++ rest) = name.toList ++ rest := by
      rw [hcons]
      exact skipSpaces_cons (opens_of_isBare hc).isSpace _
    have hnone : rest.takeWhile isBare = [] ∧ rest.dropWhile isBare = rest := by
      cases rest with
      | nil => exact ⟨rfl, rfl⟩
      | cons d rest =>
        have hd : isBare d = false := hstop d rfl
        rw [List.takeWhile_cons, List.dropWhile_cons, hd]
        exact ⟨rfl, rfl⟩
    have htake : (name.toList ++ rest).takeWhile isBare = name.toList := by
      rw [List.takeWhile_append_of_pos hname.isBare, hnone.1, List.append_nil]
    have hdrop : (name.toList ++ rest).dropWhile isBare = rest := by
      rw [List.dropWhile_append_of_pos hname.isBare, hnone.2]
    have hempty : name.toList.isEmpty = false := List.isEmpty_eq_false_iff.mpr hname.ne_nil
    rw [hskip, keyPart]
    · simp only [htake, hdrop, hempty, String.ofList_toList]
      rfl
    · intro more' heq
      rw [hcons] at heq
      exact ne_of_isBare hc (by decide) (List.cons.inj heq).1
    · intro more' heq
      rw [hcons] at heq
      exact ne_of_isBare hc (by decide) (List.cons.inj heq).1
  -- and no dot follows it
  have hparts : keyParts ((name.toList ++ rest).length + 1) (name.toList ++ rest)
      = some ([name], skipSpaces rest) := by
    rw [keyParts, hpart]
    simp only
    split
    · next later heq =>
      rw [heq] at hdot
      exact absurd rfl hdot
    · rfl
  rw [key, hparts]
  rfl

/-- A written string is a value, unless a quote follows it. -/
theorem value_writtenString (depth : Nat) (hrest : rest.head? ≠ some '"') :
    value depth (writtenString text ++ rest) = some (.string (String.ofList text), rest) := by
  have hstring := anyString_writtenString text hrest
  rw [writtenString_append] at hstring ⊢
  rw [value.eq_def]
  simp only [beq_self_eq_true, Bool.true_or, if_true, hstring]
  rfl

/-- A pair that was written, with the end of its line. -/
theorem statement_writtenPair (hname : Bare name) (text rest : List Char) :
    statement (writtenPair name text ++ rest)
      = some (.pair [] name (.string (String.ofList text)), rest) := by
  have hline : writtenPair name text ++ rest
      = name.toList ++ ' ' :: '=' :: ' ' :: (writtenString text ++ '\n' :: rest) := by
    simp [writtenPair]
  have hkey : key (writtenPair name text ++ rest)
      = some (([], name), '=' :: ' ' :: (writtenString text ++ '\n' :: rest)) := by
    rw [hline]
    refine key_bare hname ?_ ?_
    · intro c hc
      obtain rfl := Option.some.inj hc
      decide
    · exact fun heq => nomatch heq
  have hvalue : value (nestingLimit - 1) (skipSpaces (' ' :: (writtenString text ++ '\n' :: rest)))
      = some (.string (String.ofList text), '\n' :: rest) := by
    have hskip : skipSpaces (' ' :: (writtenString text ++ '\n' :: rest))
        = writtenString text ++ '\n' :: rest := rfl
    rw [hskip]
    exact value_writtenString _ (by simp)
  have hpair : pair (value (nestingLimit - 1)) (writtenPair name text ++ rest)
      = some (([], name, .string (String.ofList text)), '\n' :: rest) := by
    rw [pair, hkey]
    simp only [hvalue]
    rfl
  obtain ⟨c, more, hcons, hc⟩ := hname.cons
  have hbracket : c ≠ '[' := ne_of_isBare hc (by decide)
  rw [statement]
  · rw [hpair]
    rfl
  · intro later heq
    rw [hline, hcons] at heq
    exact hbracket (List.cons.inj heq).1
  · intro later heq
    rw [hline, hcons] at heq
    exact hbracket (List.cons.inj heq).1

/-- A header that was written, with the end of its line. -/
theorem statement_header (hname : Bare name) (rest : List Char) :
    statement ('[' :: (name.toList ++ ']' :: '\n' :: rest))
      = some (.header false [] name, rest) := by
  have hkey :
      key (name.toList ++ ']' :: '\n' :: rest) = some (([], name), ']' :: '\n' :: rest) := by
    refine key_bare hname ?_ ?_
    · intro c hc
      obtain rfl := Option.some.inj hc
      decide
    · exact fun heq => nomatch heq
  obtain ⟨c, more, hcons, hc⟩ := hname.cons
  rw [statement]
  · rw [header, hkey]
    rfl
  · intro later heq
    rw [hcons] at heq
    exact ne_of_isBare hc (by decide) (List.cons.inj heq).1

/-- One statement more. -/
theorem statements_step {s : List Char} {first : Statement} (hc : Opens c)
    (hskip : skipAll s = c :: text) (h : statement (c :: text) = some (first, after)) :
    statements (fuel + 1) s = (statements fuel after).map (first :: ·) := by
  rw [statements, hskip]
  simp only [skipComment_cons hc, h]

/-! ## Lines -/

/-- Lines that give names strings. -/
def assignments (pairs : List (String × List Char)) : List Char :=
  pairs.flatMap fun e => writtenPair e.1 e.2

/-- A name and the string that it is given. -/
def assigned (e : String × List Char) : List String × String × Node :=
  ([], e.1, .string (String.ofList e.2))

/-- What a line says that gives a name a string. -/
def statementOf (e : String × List Char) : Statement := .pair [] e.1 (.string (String.ofList e.2))

/-- A table with a header, after an empty line. -/
def titled (name : String) (pairs : List (String × List Char)) : List Char :=
  ['\n', '['] ++ name.toList ++ [']', '\n'] ++ assignments pairs

variable {pairs inner : List (String × List Char)}

/-- Pairs in lines of their own are read in turn, before whatever follows them. -/
theorem statements_assignments (hnames : ∀ e ∈ pairs, Bare e.1) (fuel : Nat) (rest : List Char) :
    statements (fuel + pairs.length) (assignments pairs ++ rest)
      = (statements fuel rest).map (pairs.map statementOf ++ ·) := by
  induction pairs with
  | nil =>
    show statements fuel rest = _
    rw [List.map_nil]
    simp
  | cons e pairs ih =>
    obtain ⟨hname, hnames⟩ := List.forall_mem_cons.mp hnames
    have hcons :
        assignments (e :: pairs) ++ rest = writtenPair e.1 e.2 ++ (assignments pairs ++ rest) := by
      rw [assignments, List.flatMap_cons, List.append_assoc]
      rfl
    have hstatement := statement_writtenPair hname e.2 (assignments pairs ++ rest)
    obtain ⟨c, more, hfirst, hc⟩ := hname.cons
    have hbegins : ∃ text, writtenPair e.1 e.2 ++ (assignments pairs ++ rest) = c :: text := by
      rw [writtenPair, hfirst]
      exact ⟨_, rfl⟩
    obtain ⟨text, htext⟩ := hbegins
    rw [htext] at hstatement
    have hopens := opens_of_isBare hc
    rw [List.length_cons, ← Nat.add_assoc, hcons, htext,
      statements_step hopens (skipAll_cons hopens text) hstatement, ih hnames, Option.map_map]
    rfl

/-- A table under its header is read to the end of the text. -/
theorem statements_titled (hname : Bare name) (hnames : ∀ e ∈ pairs, Bare e.1) (fuel : Nat) :
    statements (fuel + pairs.length + 1) (titled name pairs)
      = some (.header false [] name :: pairs.map statementOf) := by
  have hcons : titled name pairs
      = '\n' :: '[' :: (name.toList ++ ']' :: '\n' :: (assignments pairs ++ [])) := by
    simp [titled]
  rw [hcons,
    statements_step opens_bracket (skipAll_newline opens_bracket _) (statement_header hname _),
      statements_assignments hnames]
  have hend : statements fuel [] = some [] := by
    rw [statements]
    rfl
  rw [hend]
  simp

/-! ## Tables -/

/-- Pairs before the first header belong to the document itself. -/
theorem sections_pairs (pairs : List (String × List Char)) (more : List Statement) :
    sections (pairs.map statementOf ++ more)
      = (pairs.map assigned ++ (sections more).1, (sections more).2) := by
  induction pairs with
  | nil => rfl
  | cons e pairs ih =>
    rw [List.map_cons, List.cons_append, statementOf, sections, ih]
    rfl

/-- The entries of strings. -/
def strings (pairs : List (String × List Char)) : Entries :=
  pairs.map fun e => (e.1, .string (String.ofList e.2))

theorem get?_append_eq_none {entries more : Entries} {key : String} :
    Entries.get? (entries ++ more) key = none
      ↔ Entries.get? entries key = none ∧ Entries.get? more key = none := by
  simp only [Entries.get?, Option.map_eq_none_iff, List.find?_append, Option.or_eq_none_iff]

theorem get?_strings_eq_none {key : String} (h : key ∉ pairs.map (·.1)) :
    Entries.get? (strings pairs) key = none := by
  rw [Entries.get?, Option.map_eq_none_iff, List.find?_eq_none]
  intro e he heq
  obtain ⟨pair, hpair, rfl⟩ := List.mem_map.mp he
  exact h (List.mem_map.mpr ⟨pair, hpair, by simpa using heq⟩)

/-- Pairs of different names are added one after the other. -/
theorem addPairs_assigned {entries : Entries} (hnodup : (pairs.map (·.1)).Nodup)
    (hfree : ∀ e ∈ pairs, entries.get? e.1 = none) :
    addPairs .headed entries (pairs.map assigned) = some (entries ++ strings pairs) := by
  induction pairs generalizing entries with
  | nil => simp [addPairs, strings]
  | cons e pairs ih =>
    obtain ⟨hother, hnodup⟩ := List.nodup_cons.mp hnodup
    obtain ⟨hnone, hfree⟩ := List.forall_mem_cons.mp hfree
    -- the first name is free, and it is none of the later ones
    have hadd : addPair .headed entries [] e.1 (.string (String.ofList e.2))
        = some (entries.push e.1 (.string (String.ofList e.2))) := by
      rw [addPair, changeAt, hnone]
      rfl
    rw [List.map_cons, assigned, addPairs, hadd]
    simp only
    rw [ih hnodup]
    · simp [strings, Entries.push]
    · intro later hlater
      refine get?_append_eq_none.mpr ⟨hfree later hlater, ?_⟩
      have hne : e.1 ≠ later.1 := fun heq => hother (List.mem_map.mpr ⟨later, hlater, heq.symm⟩)
      simp [Entries.get?, hne]

/-! ## Documents -/

/-- Strings, and one table of strings after them. -/
def written (pairs : List (String × List Char)) (name : String)
    (inner : List (String × List Char)) : List Char :=
  assignments pairs ++ titled name inner

theorem length_le_assignments (pairs : List (String × List Char)) :
    pairs.length ≤ (assignments pairs).length := by
  induction pairs with
  | nil => exact Nat.le_refl 0
  | cons e pairs ih =>
    have hcons : assignments (e :: pairs) = writtenPair e.1 e.2 ++ assignments pairs := rfl
    rw [hcons, writtenPair, List.length_cons]
    simp only [List.length_append, List.length_cons, List.length_nil]
    omega

/-- A document that was written is read as its strings and its table. -/
theorem parse?_written (hpairs : ∀ e ∈ pairs, Bare e.1) (hname : Bare name)
    (hinner : ∀ e ∈ inner, Bare e.1) (hnodup : (pairs.map (·.1)).Nodup)
    (hnodupInner : (inner.map (·.1)).Nodup) (hfree : name ∉ pairs.map (·.1)) :
    parse? (written pairs name inner)
      = some (strings pairs ++ [(name, .table .headed (strings inner))]) := by
  have hmark : skipMark (written pairs name inner) = written pairs name inner := by
    rw [skipMark.eq_def]
    split
    · next rest heq =>
      -- the document begins with a name or, if there is none before the table, with a line end
      rw [written] at heq
      cases pairs with
      | nil => exact absurd (List.cons.inj heq).1 (by decide)
      | cons e pairs =>
        obtain ⟨c, more, hcons, hc⟩ := (hpairs e List.mem_cons_self).cons
        rw [assignments, List.flatMap_cons, writtenPair, hcons] at heq
        exact absurd (List.cons.inj heq).1 (ne_of_isBare hc (by decide))
    · rfl
  have hfuel :
      ∃ fuel, (written pairs name inner).length = fuel + inner.length + 1 + pairs.length := by
    have houter := length_le_assignments pairs
    have hinside := length_le_assignments inner
    have hlength : (written pairs name inner).length
        = (assignments pairs).length + (4 + name.toList.length + (assignments inner).length) := by
      simp only [written, titled, List.length_append, List.length_cons, List.length_nil]
      omega
    exact ⟨(written pairs name inner).length - (inner.length + 1 + pairs.length), by omega⟩
  obtain ⟨fuel, hfuel⟩ := hfuel
  have hstatements : statements (written pairs name inner).length (written pairs name inner)
      = some (pairs.map statementOf ++ .header false [] name :: inner.map statementOf) := by
    rw [hfuel, written, statements_assignments hpairs, statements_titled hname hinner]
    rfl
  have hinside : sections (inner.map statementOf) = (inner.map assigned, []) := by
    have hall := sections_pairs inner []
    rw [List.append_nil] at hall
    rw [hall]
    simp [sections]
  have hroot : addPairs .headed [] (pairs.map assigned) = some (strings pairs) :=
    addPairs_assigned hnodup fun e he => rfl
  have htable : addPairs .headed [] (inner.map assigned) = some (strings inner) :=
    addPairs_assigned hnodupInner fun e he => rfl
  have hnone : Entries.get? (strings pairs) name = none := get?_strings_eq_none hfree
  rw [parse?, hmark, hstatements]
  simp only [Option.bind_eq_bind, Option.bind_some, sections_pairs, sections, hinside,
    List.append_nil, hroot]
  simp only [addSections, addSection, changeAt, hnone, htable]
  rfl

end ProxyTrust.Toml
