/-
  Texts of blocks one after another, and the first block of a label in them.

  1. **Markers** — a label without dashes gives a marker of exactly ten dashes.  Hence no marker
     stands in another one: it would have to use up all ten, and then be all of it
     (`eq_of_infix_of_count`).  None stands in a row of base64, where there is no dash.

  2. **Other blocks** — a block of another label is skipped line by line: the marker that is
     looked for begins in none of its lines, and does not go over the end of one (`decode_skip`).

  3. **The first block** — `decode_blocksText` shows, by induction on the blocks, that reading
     finds the first block with the label.
-/
import ProxyTrust.Proofs.Pem.Block

namespace ProxyTrust.Pem

/-- A label that no marker line is spoiled by: it holds no dash and no line end. -/
structure PlainLabel (label : List Char) : Prop where
  dash : '-' ∉ label
  lineFeed : '\n' ∉ label
  carriageReturn : '\r' ∉ label

/-- The bytes of a block and its label. -/
structure Block where
  label : String
  data : List UInt8
  deriving Repr, DecidableEq

/-- Blocks as they are written one after another. -/
def blocksText (blocks : List Block) : String :=
  String.join (blocks.map fun b => encode b.label b.data)

/-- A text of blocks is the characters of one block after the other. -/
theorem toList_blocksText (blocks : List Block) :
    (blocksText blocks).toList = blocks.flatMap fun b => encodeChars b.label.toList b.data := by
  rw [blocksText, String.toList_join, List.flatMap_map]
  simp only [encode, String.toList_ofList]

theorem blocksText_singleton (b : Block) : blocksText [b] = encode b.label b.data := by
  apply String.toList_inj.mp
  rw [toList_blocksText, encode, String.toList_ofList]
  exact List.append_nil _

variable {label other : List Char}

/-! ## Markers -/

/-- A marker has ten dashes, if its label has none. -/
theorem count_beginMarker (h : '-' ∉ label) : (beginMarker label).count '-' = 10 := by
  rw [beginMarker_eq, List.count_append, List.count_append, List.count_eq_zero.mpr h]
  decide

theorem count_endMarker (h : '-' ∉ label) : (endMarker label).count '-' = 10 := by
  rw [endMarker_eq, List.count_append, List.count_append, List.count_eq_zero.mpr h]
  decide

/-- Two markers: both begin and end with a dash, and have as many of them. -/
theorem eq_of_infix_of_count {s t : List Char} (h : s <:+: t) (hcount : s.count '-' = t.count '-')
    (hhead : t.head? = some '-') (hlast : t.getLast? = some '-') : s = t := by
  obtain ⟨front, back, rfl⟩ := h
  rw [List.count_append, List.count_append] at hcount
  -- what stands around the first list holds no dash, and would begin or end the second one
  have hfront : front = [] := by
    cases front with
    | nil => rfl
    | cons c front =>
      obtain rfl : c = '-' := Option.some.inj hhead
      rw [List.count_cons_self] at hcount
      omega
  have hback : back = [] := by
    rcases List.eq_nil_or_concat back with rfl | ⟨back, c, rfl⟩
    · rfl
    · rw [List.concat_eq_append, ← List.append_assoc, List.getLast?_concat] at hlast
      obtain rfl : c = '-' := Option.some.inj hlast
      rw [List.concat_eq_append, List.count_append, List.count_singleton_self] at hcount
      omega
  rw [hfront, hback, List.nil_append, List.append_nil]

theorem getLast?_beginMarker (label : List Char) : (beginMarker label).getLast? = some '-' := by
  rw [beginMarker_eq, List.getLast?_append]
  rfl

theorem getLast?_endMarker (label : List Char) : (endMarker label).getLast? = some '-' := by
  rw [endMarker_eq, List.getLast?_append]
  rfl

/-- Markers of two labels do not stand in each other. -/
theorem not_beginMarker_infix_beginMarker (h : PlainLabel label) (hother : PlainLabel other)
    (hne : label ≠ other) : ¬ beginMarker label <:+: beginMarker other := by
  intro hinfix
  have hcount := (count_beginMarker h.dash).trans (count_beginMarker hother.dash).symm
  have heq :=
    eq_of_infix_of_count hinfix hcount (head?_beginMarker other) (getLast?_beginMarker other)
  rw [beginMarker_eq, beginMarker_eq] at heq
  exact hne (List.append_cancel_left (List.append_cancel_right heq))

/-- No marker that begins a block stands in one that ends a block. -/
theorem not_beginMarker_infix_endMarker (h : PlainLabel label) (hother : PlainLabel other) :
    ¬ beginMarker label <:+: endMarker other := by
  intro hinfix
  have hcount := (count_beginMarker h.dash).trans (count_endMarker hother.dash).symm
  have heq := eq_of_infix_of_count hinfix hcount (head?_endMarker other) (getLast?_endMarker other)
  have hsixth : (beginMarker label)[5]? = (endMarker other)[5]? := by rw [heq]
  have hletters : some 'B' = some 'E' := hsixth
  revert hletters
  decide

/-- No marker stands in a row of base64. -/
theorem not_beginMarker_infix_row {data : List UInt8} {row : List Char}
    (hrow : row ∈ bodyRows data) : ¬ beginMarker label <:+: row := by
  intro hinfix
  have hdash : '-' ∈ row := hinfix.subset (List.mem_of_mem_head? (head?_beginMarker label))
  exact (mem_encode_plain (mem_encode_of_mem_bodyRows hrow hdash)).1 rfl

theorem not_mem_beginMarker (h : PlainLabel label) : '\n' ∉ beginMarker label := by
  simp [beginMarker_eq, h.lineFeed]

/-! ## Other blocks -/

/-- Lines in which the marker does not stand are skipped. -/
theorem cutFirst?_lines (h : PlainLabel label) {rows : List (List Char)} {rest : List Char}
    (hrows : ∀ row ∈ rows, ¬ beginMarker label <:+: row) :
    Text.cutFirst? (beginMarker label) (rows.flatMap (· ++ ['\n']) ++ rest)
      = (Text.cutFirst? (beginMarker label) rest).map fun cut =>
          (rows.flatMap (· ++ ['\n']) ++ cut.1, cut.2) := by
  induction rows with
  | nil => cases hcut : Text.cutFirst? (beginMarker label) rest <;> simp [hcut]
  | cons row rows ih =>
    obtain ⟨hrow, hrows⟩ := List.forall_mem_cons.mp hrows
    have hempty : beginMarker label ≠ [] := List.ne_nil_of_mem
      (List.mem_of_mem_head? (head?_beginMarker label))
    rw [List.flatMap_cons, List.append_assoc,
      Text.cutFirst?_line (not_mem_beginMarker h) hempty hrow, ih hrows, Option.map_map]
    simp only [Function.comp_def, List.append_assoc]

/-- A block of another label changes nothing about what is read. -/
theorem decode_skip {label : String} {b : Block} {text rest : String} (h : PlainLabel label.toList)
    (hb : PlainLabel b.label.toList) (hne : b.label ≠ label)
    (htext : text.toList = encodeChars b.label.toList b.data ++ rest.toList) :
    decode label text = decode label rest := by
  have hlabels : label.toList ≠ b.label.toList := by
    intro heq
    exact hne (String.toList_inj.mp heq).symm
  have hrows : ∀ row ∈ lines b.label.toList b.data, ¬ beginMarker label.toList <:+: row := by
    intro row hrow
    simp only [lines, List.mem_append, List.mem_singleton] at hrow
    rcases hrow with (rfl | hrow) | rfl
    · exact not_beginMarker_infix_beginMarker h hb hlabels
    · exact not_beginMarker_infix_row hrow
    · exact not_beginMarker_infix_endMarker h hb
  rw [decode, decode, htext, encodeChars, cutFirst?_lines h hrows]
  cases Text.cutFirst? (beginMarker label.toList) rest.toList with
  | none => rfl
  | some cut => rfl

/-! ## The first block -/

/-- Reading finds the first block with the label. -/
theorem decode_blocksText {label : String} {blocks : List Block} (h : PlainLabel label.toList)
    (hblocks : ∀ b ∈ blocks, PlainLabel b.label.toList) :
    decode label (blocksText blocks)
      = match blocks.find? (·.label = label) with
        | some b => .ok b.data
        | none => .error (.missing label) := by
  induction blocks with
  | nil => rfl
  | cons b blocks ih =>
    obtain ⟨hb, hblocks⟩ := List.forall_mem_cons.mp hblocks
    have htext : (blocksText (b :: blocks)).toList
        = encodeChars b.label.toList b.data ++ (blocksText blocks).toList := by
      rw [toList_blocksText, toList_blocksText, List.flatMap_cons]
    by_cases hlabel : b.label = label
    · rw [List.find?_cons_of_pos (by simpa using hlabel)]
      rw [hlabel] at htext
      exact decode_encode_append label b.data htext
    · rw [List.find?_cons_of_neg (by simpa using hlabel), ← ih hblocks]
      exact decode_skip h hb hlabel htext

end ProxyTrust.Pem
