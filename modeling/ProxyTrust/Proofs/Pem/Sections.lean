/-
  What the reader of sections makes of blocks one after another.

  1. **Lines** — bytes without line ends of their own, each followed by a line feed, are split
     into these lines again.

  2. **Opening lines** — the crux is `openingLabel?_beginMarker`: a label may end in spaces, and
     then the bytes that trail the line reach into the label, or even before it, but the dashes
     among them are the five after the label.  So the label is cut off at the right place all the
     same.

  3. **Sections** — between two blocks the reader stands at the start.  Inside a block it has
     collected the rows that it has read, and the closing line finds in them the canonical base64
     of the block, which the lenient reader takes (`Base64.Lenient.decode_encode`).  One lemma for
     each kind of line says what the reader does at it, and `run_block` puts them together.

  4. **Files** — `sections_blocksText` is the main statement, by induction on the blocks: the
     sections of the file are the blocks.  What is read is bytes, and the markers are characters;
     labels and rows go over to bytes by their UTF-8.
-/
import ProxyTrust.Pem.Sections
import ProxyTrust.Proofs.Pem.Blocks

namespace ProxyTrust.Pem

open Text (dropLead? encodeUtf8)

/-! ## Lines -/

/-- The line feed. -/
def lineFeed : UInt8 := 0x0A

/-- Bytes without a line end among them. -/
def Unbroken (line : List UInt8) : Prop := ∀ b ∈ line, endsLine b = false

/-- The first line ends at its line feed, and the rest is split on its own. -/
theorem splitLines_line {line : List UInt8} (h : Unbroken line) (rest : List UInt8) :
    splitLines (line ++ [lineFeed] ++ rest) = (line ++ [lineFeed]) :: splitLines rest := by
  induction line with
  | nil =>
    have hend : endsLine lineFeed = true := by decide
    rw [List.nil_append, List.singleton_append, splitLines, if_pos hend]
  | cons b line ih =>
    obtain ⟨hb, hline⟩ := List.forall_mem_cons.mp h
    rw [List.cons_append, List.cons_append, splitLines, if_neg (by simp [hb]), ih hline]

/-- Lines that are put one after another come back. -/
theorem splitLines_lines {rows : List (List UInt8)} (h : ∀ row ∈ rows, Unbroken row)
    (rest : List UInt8) :
    splitLines (rows.flatMap (· ++ [lineFeed]) ++ rest)
      = rows.map (· ++ [lineFeed]) ++ splitLines rest := by
  induction rows with
  | nil => rfl
  | cons row rows ih =>
    obtain ⟨hrow, hrows⟩ := List.forall_mem_cons.mp h
    rw [List.flatMap_cons, List.append_assoc, splitLines_line hrow, ih hrows]
    rfl

/-- A text without line ends has no line ends among its bytes. -/
theorem unbroken_encodeUtf8 {s : List Char} (hlineFeed : '\n' ∉ s) (hreturn : '\r' ∉ s) :
    Unbroken (encodeUtf8 s) := by
  intro b hb
  have hnot (c : Char) (hc : c.toNat < 128) (hmem : c ∉ s) : b ≠ UInt8.ofNat c.toNat := by
    rintro rfl
    exact hmem (Text.mem_of_mem_encodeUtf8 hc hb)
  have h10 := hnot '\n' (by decide) hlineFeed
  have h13 := hnot '\r' (by decide) hreturn
  rw [endsLine, Bool.or_eq_false_iff, beq_eq_false_iff_ne, beq_eq_false_iff_ne]
  exact ⟨h10, h13⟩

theorem not_mem_encodeUtf8_dash {s : List Char} (h : '-' ∉ s) : dash ∉ encodeUtf8 s :=
  fun hmem => h (Text.mem_of_mem_encodeUtf8 (c := '-') (by decide) hmem)

/-! ## Opening lines -/

theorem encodeUtf8_dashes : encodeUtf8 "-----".toList = List.replicate 5 dash := by decide

/-- A BEGIN marker in bytes is a lead, the label and five dashes. -/
theorem encodeUtf8_beginMarker (label : List Char) :
    encodeUtf8 (beginMarker label) = beginLead ++ encodeUtf8 label ++ List.replicate 5 dash := by
  rw [beginMarker_eq, Text.encodeUtf8_append, Text.encodeUtf8_append, encodeUtf8_dashes]
  rfl

/-- An END marker in bytes is the line that ends a section. -/
theorem encodeUtf8_endMarker (label : List Char) :
    encodeUtf8 (endMarker label) = sectionEnd (encodeUtf8 label) := by
  rw [endMarker_eq, Text.encodeUtf8_append, Text.encodeUtf8_append, encodeUtf8_dashes]
  rfl

/-- The bytes that trail the lead and a label hold no dash. -/
theorem not_mem_takeWhile_isTrailing {label : List UInt8} (h : dash ∉ label) :
    dash ∉ (beginLead ++ label).reverse.takeWhile isTrailing := by
  intro hmem
  -- the letter before the space of the lead does not trail
  have hlead : beginLead = (beginLead.take 10) ++ [0x20] := by decide
  have hstop : (beginLead.take 10).reverse.takeWhile isTrailing = [] := by decide
  rw [hlead, List.append_assoc, List.reverse_append, List.takeWhile_append] at hmem
  have hshort : dash ∈ ([0x20] ++ label).reverse := by
    split at hmem
    · rw [hstop, List.append_nil] at hmem
      exact hmem
    · exact (List.takeWhile_prefix isTrailing).subset hmem
  rw [List.mem_reverse] at hshort
  rcases List.mem_append.mp hshort with hspace | hlabel
  · revert hspace
    decide
  · exact h hlabel

/-- The label of an opening line that was written. -/
theorem openingLabel?_beginMarker {label : List UInt8} (h : dash ∉ label) :
    openingLabel? (beginLead ++ label ++ List.replicate 5 dash ++ [lineFeed]) = some label := by
  -- the line is looked at from its end: line feed, dashes, and the label behind them
  have hback : (beginLead ++ label ++ List.replicate 5 dash ++ [lineFeed]).reverse
      = ([lineFeed] ++ List.replicate 5 dash) ++ (beginLead ++ label).reverse := by
    simp only [List.reverse_append, List.reverse_replicate, List.append_assoc]
    rfl
  have htrails : ∀ b ∈ [lineFeed] ++ List.replicate 5 dash, isTrailing b = true := by
    intro b hb
    rcases List.mem_append.mp hb with hb | hb
    · rw [List.mem_singleton.mp hb]
      decide
    · rw [List.eq_of_mem_replicate hb]
      decide
  have htrail :
      (beginLead ++ label ++ List.replicate 5 dash ++ [lineFeed]).reverse.takeWhile isTrailing
      = ([lineFeed] ++ List.replicate 5 dash)
        ++ (beginLead ++ label).reverse.takeWhile isTrailing := by
    rw [hback, List.takeWhile_append_of_pos htrails]
  have hnone := not_mem_takeWhile_isTrailing h
  have hcount : ((beginLead ++ label ++ List.replicate 5 dash ++ [lineFeed]).reverse.takeWhile
      isTrailing).count dash = 5 := by
    rw [htrail, List.count_append, List.count_eq_zero.mpr hnone]
    decide
  -- what trails from the label is skipped up to the first dash
  have hkept : ((beginLead ++ label ++ List.replicate 5 dash ++ [lineFeed]).reverse.takeWhile
      isTrailing).reverse.dropWhile (· != dash) = List.replicate 5 dash ++ [lineFeed] := by
    have hskipped : ∀ b ∈ ((beginLead ++ label).reverse.takeWhile isTrailing).reverse,
        (b != dash) = true := by
      intro b hb
      rw [List.mem_reverse] at hb
      rw [bne_iff_ne]
      rintro rfl
      exact hnone hb
    rw [htrail, List.reverse_append, List.dropWhile_append_of_pos hskipped]
    decide
  rw [openingLabel?]
  simp only
  rw [if_pos hcount, hkept]
  have htake : (beginLead ++ label ++ List.replicate 5 dash ++ [lineFeed]).take
      ((beginLead ++ label ++ List.replicate 5 dash ++ [lineFeed]).length
        - (List.replicate 5 dash ++ [lineFeed]).length) = beginLead ++ label := by
    rw [List.append_assoc (beginLead ++ label)]
    have hlength : (beginLead ++ label ++ (List.replicate 5 dash ++ [lineFeed])).length
        = (beginLead ++ label).length + (List.replicate 5 dash ++ [lineFeed]).length :=
      List.length_append
    exact List.take_left' (by omega)
  rw [htake, List.drop_left]

/-! ## Sections -/

/-- A line that does not begin with a dash opens and closes nothing. -/
theorem not_dropLead?_of_head {lead line : List UInt8} (hlead : lead.head? = some dash)
    (hline : line.head? ≠ some dash) : (dropLead? lead line).isSome = false := by
  rw [Bool.eq_false_iff, ne_eq, Text.isSome_dropLead?_iff]
  rintro ⟨rest, rfl⟩
  refine hline ?_
  rw [List.head?_append, hlead]
  rfl

/-- A line that opens a section opens it, wherever the reader is; what it has collected stays. -/
theorem line_begin (r : Reader) {label : List UInt8} (h : dash ∉ label) :
    r.line (beginLead ++ label ++ List.replicate 5 dash ++ [lineFeed])
      = .ok ({ r with inside := some label }, none) := by
  have hlead :
      (dropLead? beginLead (beginLead ++ label ++ List.replicate 5 dash ++ [lineFeed])).isSome
      = true := by
    rw [Text.isSome_dropLead?_iff]
    exact ⟨label ++ List.replicate 5 dash ++ [lineFeed], by simp only [List.append_assoc]⟩
  rw [Reader.line, if_pos hlead, openingLabel?_beginMarker h]

/-- A row inside a section is collected. -/
theorem line_row {label collected row : List UInt8} (hdash : dash ∉ row)
    (hspace : (0x20 : UInt8) ∉ row) (hrow : Unbroken row) :
    Reader.line ⟨some label, collected⟩ (row ++ [lineFeed])
      = .ok (⟨some label, collected ++ row⟩, none) := by
  have hhead : (row ++ [lineFeed]).head? ≠ some dash := by
    intro h
    rcases List.mem_append.mp (List.mem_of_mem_head? h) with h | h
    · exact hdash h
    · revert h
      decide
  -- the line feed is trimmed, and a row ends in nothing else that is
  have htrimmed : trimmedLine (row ++ [lineFeed]) = row := by
    rw [trimmedLine, List.reverse_append, List.reverse_singleton, List.singleton_append,
      List.dropWhile_cons_of_pos (by decide)]
    cases hback : row.reverse with
    | nil => exact (List.reverse_eq_nil_iff.mp hback).symm
    | cons b back =>
      have hb : b ∈ row := List.mem_reverse.mp (by rw [hback]; exact List.mem_cons_self ..)
      have hkept : ¬ (endsLine b || b == 0x20) = true := by
        rw [hrow b hb, Bool.false_or, beq_iff_eq]
        rintro rfl
        exact hspace hb
      rw [List.dropWhile_cons, if_neg hkept, ← hback, List.reverse_reverse]
  rw [Reader.line, if_neg (by rw [not_dropLead?_of_head rfl hhead]; decide)]
  simp only
  rw [if_neg (by rw [not_dropLead?_of_head rfl hhead]; decide), htrimmed]

/-- The closing line of a section decodes what was collected. -/
theorem line_end {label collected data : List UInt8}
    (hdata : Base64.Lenient.decode collected = .ok data) :
    Reader.line ⟨some label, collected⟩ (sectionEnd label ++ [lineFeed])
      = .ok (.start, some ⟨label, data⟩) := by
  have hbegin : (dropLead? beginLead (sectionEnd label ++ [lineFeed])).isSome = false := rfl
  have hend : (dropLead? (sectionEnd label) (sectionEnd label ++ [lineFeed])).isSome = true := by
    rw [Text.isSome_dropLead?_iff]
    exact List.prefix_append _ _
  rw [Reader.line, if_neg (by rw [hbegin]; decide)]
  simp only
  rw [if_pos hend, hdata]

/-- A line that closes nothing leaves the sections to the lines after it. -/
theorem run_cons {r next : Reader} {line : List UInt8} {closed : Option Section}
    (hline : r.line line = .ok (next, closed)) (rest : List (List UInt8)) :
    r.run (line :: rest) = (next.run rest).map (closed.toList ++ ·) := by
  rw [Reader.run, hline]

/-- Rows inside a section are collected one after another. -/
theorem run_rows {label collected : List UInt8} {rows : List (List UInt8)}
    (hrows : ∀ row ∈ rows, dash ∉ row ∧ (0x20 : UInt8) ∉ row ∧ Unbroken row)
    (rest : List (List UInt8)) :
    Reader.run ⟨some label, collected⟩ (rows.map (· ++ [lineFeed]) ++ rest)
      = Reader.run ⟨some label, collected ++ rows.flatten⟩ rest := by
  induction rows generalizing collected with
  | nil => rw [List.map_nil, List.nil_append, List.flatten_nil, List.append_nil]
  | cons row rows ih =>
    obtain ⟨⟨hdash, hspace, hrow⟩, hrows⟩ := List.forall_mem_cons.mp hrows
    rw [List.map_cons, List.cons_append, run_cons (line_row hdash hspace hrow), ih hrows,
      List.flatten_cons, List.append_assoc]
    cases Reader.run ⟨some label, collected ++ (row ++ rows.flatten)⟩ rest <;> rfl

/-- The bytes of a row of base64 are neither dashes nor spaces nor line ends. -/
theorem row_plain {data : List UInt8} {row : List Char} (hrow : row ∈ bodyRows data) :
    dash ∉ encodeUtf8 row ∧ (0x20 : UInt8) ∉ encodeUtf8 row ∧ Unbroken (encodeUtf8 row) := by
  have hplain {c : Char} (hc : c ∈ row) := mem_encode_plain (mem_encode_of_mem_bodyRows hrow hc)
  refine ⟨?_, ?_, unbroken_encodeUtf8 ?_ ?_⟩
  · exact not_mem_encodeUtf8_dash fun hc => (hplain hc).1 rfl
  · intro hspace
    have hc : ' ' ∈ row := Text.mem_of_mem_encodeUtf8 (by decide) hspace
    exact (hplain hc).2.1 rfl
  · exact fun hc => (hplain hc).2.2.1 rfl
  · exact fun hc => (hplain hc).2.2.2.1 rfl

/-- The lines of a block are read as one section, from the start and back to it. -/
theorem run_block {label : List Char} (h : PlainLabel label) (data : List UInt8)
    (rest : List (List UInt8)) :
    Reader.start.run ((lines label data).map (fun row => encodeUtf8 row ++ [lineFeed]) ++ rest)
      = (Reader.start.run rest).map (⟨encodeUtf8 label, data⟩ :: ·) := by
  have hrows : ∀ row ∈ (bodyRows data).map encodeUtf8,
      dash ∉ row ∧ (0x20 : UInt8) ∉ row ∧ Unbroken row := by
    intro row hrow
    obtain ⟨s, hs, rfl⟩ := List.mem_map.mp hrow
    exact row_plain hs
  -- the rows in bytes are the bytes of the base64 text
  have hcollected : ((bodyRows data).map encodeUtf8).flatten = encodeUtf8 (Base64.encode data) := by
    rw [← flatten_bodyRows, ← List.flatMap_def, ← Text.encodeUtf8_flatMap, List.flatMap_id']
  -- the lines of a block: one that opens, the rows, and one that closes
  have hlines : (lines label data).map (fun row => encodeUtf8 row ++ [lineFeed]) ++ rest
      = (beginLead ++ encodeUtf8 label ++ List.replicate 5 dash ++ [lineFeed])
        :: (((bodyRows data).map encodeUtf8).map (· ++ [lineFeed])
          ++ ((sectionEnd (encodeUtf8 label) ++ [lineFeed]) :: rest)) := by
    rw [lines, List.map_append, List.map_append, List.map_singleton, List.map_singleton,
      encodeUtf8_beginMarker, encodeUtf8_endMarker, List.map_map, List.append_assoc,
      List.append_assoc]
    rfl
  have hopen : Reader.start.line
      (beginLead ++ encodeUtf8 label ++ List.replicate 5 dash ++ [lineFeed])
        = .ok (⟨some (encodeUtf8 label), []⟩, none) :=
    line_begin .start (not_mem_encodeUtf8_dash h.dash)
  rw [hlines, run_cons hopen, run_rows hrows, hcollected, List.nil_append,
    run_cons (line_end (Base64.Lenient.decode_encode data))]
  cases Reader.start.run rest <;> rfl

/-! ## Files -/

/-- The section of a block. -/
def Block.section (b : Block) : Section := ⟨encodeUtf8 b.label.toList, b.data⟩

/-- The lines of a block have no line ends of their own. -/
theorem unbroken_lines {label : List Char} (h : PlainLabel label) (data : List UInt8) :
    ∀ row ∈ (lines label data).map encodeUtf8, Unbroken row := by
  intro row hrow
  obtain ⟨s, hs, rfl⟩ := List.mem_map.mp hrow
  simp only [lines, List.mem_append, List.mem_singleton] at hs
  rcases hs with (rfl | hs) | rfl
  · refine unbroken_encodeUtf8 (not_mem_beginMarker h) ?_
    simp [beginMarker_eq, h.carriageReturn]
  · exact (row_plain hs).2.2
  · refine unbroken_encodeUtf8 ?_ ?_
    · simp [endMarker_eq, h.lineFeed]
    · simp [endMarker_eq, h.carriageReturn]

/-- The bytes of a block are its lines. -/
theorem encodeUtf8_encodeChars (label : List Char) (data : List UInt8) :
    encodeUtf8 (encodeChars label data)
      = ((lines label data).map encodeUtf8).flatMap (· ++ [lineFeed]) := by
  rw [encodeChars, Text.encodeUtf8_flatMap, List.flatMap_map]
  simp only [Text.encodeUtf8_append]
  rfl

/-- The sections of a file of blocks are the blocks. -/
theorem sections_blocksText {blocks : List Block}
    (hblocks : ∀ b ∈ blocks, PlainLabel b.label.toList) :
    sections (encodeUtf8 (blocksText blocks).toList) = .ok (blocks.map Block.section) := by
  rw [sections]
  induction blocks with
  | nil => rfl
  | cons b blocks ih =>
    obtain ⟨hb, hblocks⟩ := List.forall_mem_cons.mp hblocks
    have hbytes : encodeUtf8 (blocksText (b :: blocks)).toList
        = ((lines b.label.toList b.data).map encodeUtf8).flatMap (· ++ [lineFeed])
          ++ encodeUtf8 (blocksText blocks).toList := by
      rw [toList_blocksText, toList_blocksText, List.flatMap_cons, Text.encodeUtf8_append,
        encodeUtf8_encodeChars]
    rw [hbytes, splitLines_lines (unbroken_lines hb b.data), List.map_map]
    have hrun := run_block hb b.data (splitLines (encodeUtf8 (blocksText blocks).toList))
    rw [ih hblocks] at hrun
    exact hrun

/-- The sections of a label in a file of blocks are those of the blocks of that label. -/
theorem sectionsOf_blocksText {blocks : List Block} (label : String)
    (hblocks : ∀ b ∈ blocks, PlainLabel b.label.toList) :
    sectionsOf label (encodeUtf8 (blocksText blocks).toList)
      = .ok ((blocks.filter (·.label = label)).map Block.data) := by
  have hsame (b : Block) :
      (b.section.label == encodeUtf8 label.toList) = decide (b.label = label) := by
    rw [Bool.eq_iff_iff, beq_iff_eq, decide_eq_true_iff]
    constructor
    · intro h
      exact String.toList_inj.mp (Text.encodeUtf8_injective h)
    · rintro rfl
      rfl
  rw [sectionsOf, sections_blocksText hblocks]
  have hfilter : (blocks.map Block.section).filter (·.label == encodeUtf8 label.toList)
      = (blocks.filter (·.label = label)).map Block.section := by
    rw [List.filter_map]
    simp only [Function.comp_def, hsame]
  rw [Except.map, hfilter, List.map_map]
  rfl

end ProxyTrust.Pem
