/-
  The lines of a block that was written.

  1. **Lengths** — three bytes give four symbols, a last group of one or two bytes as well.

  2. **Rows** — `Layout data rows` says what rows of base64 have to be: all full but the last,
     none empty, and together the standard text of the bytes.  The crux is the padding: there are
     two of it at most, and the last row has four characters at least, so that all of it stands
     there.

  3. **Lines** — no line holds a newline, so that the text split at its newlines gives the lines
     back (`splitOn_encode_layout`).
-/
import ProxyTrust.Proofs.Base64.Bits
import ProxyTrust.Proofs.Pem.Block

namespace ProxyTrust.Pem

variable {label text : List Char} {data : List UInt8} {rows : List (List Char)}

/-! ## Lengths -/

/-- Three bytes give four symbols, and so does a last group of one or two. -/
theorem length_encode (data : List UInt8) :
    (Base64.encode data).length = 4 * ((data.length + 2) / 3) := by
  induction data using Base64.encode.induct with
  | case1 a b c rest ih =>
    simp only [Base64.encode, List.length_cons]
    omega
  | case2 a b => simp [Base64.encode]
  | case3 a => simp [Base64.encode]
  | case4 => rfl

/-- The text of bytes is symbols and then padding, twice at most. -/
theorem encode_eq_append (data : List UInt8) : ∃ symbols padding,
    Base64.encode data = symbols ++ List.replicate padding '=' ∧ '=' ∉ symbols ∧ padding ≤ 2 := by
  have hsymbol : ∀ v < 64, Base64.symbol v ≠ '=' := by decide
  refine ⟨_, _, Base64.encode_eq data, ?_, ?_⟩
  · intro h
    obtain ⟨v, hv, heq⟩ := List.mem_map.mp h
    exact hsymbol v (Base64.values_sextets data v hv) heq
  · have hmod := Base64.length_sextets_mod data
    rw [Base64.fill]
    omega

/-! ## Rows -/

/-- The rows of the body of a block: 64 characters in each but the last, which has 4 to 64 of them
    in groups of four; padding at the end of the last one alone; and together the standard base64
    of the bytes. -/
structure Layout (data : List UInt8) (rows : List (List Char)) : Prop where
  count : rows.length = (4 * ((data.length + 2) / 3) + 63) / 64
  full : ∀ row ∈ rows.dropLast, row.length = 64
  last : ∀ row ∈ rows.getLast?, 4 ≤ row.length ∧ row.length ≤ 64 ∧ row.length % 4 = 0
  ne_nil : ∀ row ∈ rows, row ≠ []
  nil_iff : rows = [] ↔ data = []
  unpadded : ∀ row ∈ rows.dropLast, '=' ∉ row
  padded : ∀ row ∈ rows.getLast?, ∃ symbols padding,
    row = symbols ++ List.replicate padding '=' ∧ '=' ∉ symbols ∧ padding ≤ 2
  text : rows.flatten = Base64.standard data

theorem layout_nil : Layout [] [] where
  count := rfl
  full := by simp
  last := by simp
  ne_nil := by simp
  nil_iff := by simp
  unpadded := by simp
  padded := by simp
  text := by rw [← Base64.encode_eq_standard]; rfl

/-- Padding that is no longer than the last part of a text stands in that part. -/
theorem padding_in_last {front last symbols : List Char} {padding : Nat}
    (h : front ++ last = symbols ++ List.replicate padding '=') (hle : padding ≤ last.length) :
    ∃ later, symbols = front ++ later ∧ last = later ++ List.replicate padding '=' := by
  rcases List.append_eq_append_iff.mp h with ⟨later, hsymbols, hlast⟩ | ⟨between, hfront, hpadding⟩
  · exact ⟨later, hsymbols, hlast⟩
  · -- nothing of the padding is left for the parts before
    have hlength := congrArg List.length hpadding
    rw [List.length_replicate, List.length_append] at hlength
    obtain rfl : between = [] := List.eq_nil_of_length_eq_zero (by omega)
    exact ⟨[], by rw [hfront, List.append_nil, List.append_nil], by rw [hpadding]; rfl⟩

/-- The rows that are written are a layout of the bytes. -/
theorem layout_bodyRows (data : List UInt8) : Layout data (bodyRows data) := by
  by_cases hdata : data = []
  · subst hdata
    have hnone : bodyRows [] = [] := Text.chunks_nil
    rw [hnone]
    exact layout_nil
  have hlength := length_encode data
  have hbytes := List.length_pos_iff.mpr hdata
  have hne : Base64.encode data ≠ [] := List.length_pos_iff.mp (by omega)
  obtain ⟨front, last, hrows, hfront, hpos, hle, hparts⟩ :
      ∃ front last, bodyRows data = front ++ [last]
      ∧ (∀ row ∈ front, row.length = 64) ∧ 0 < last.length ∧ last.length ≤ 64
      ∧ (Base64.encode data).length = front.length * 64 + last.length := Text.chunks_eq_concat hne
  have hgroups : 4 ≤ last.length ∧ last.length ≤ 64 ∧ last.length % 4 = 0 := by omega
  have hflatten : front.flatten ++ last = Base64.encode data := by
    rw [← flatten_bodyRows, hrows, List.flatten_concat]
  -- the symbols are those of the rows before, and then those of the last row
  obtain ⟨symbols, padding, htext, hsymbols, htwo⟩ := encode_eq_append data
  obtain ⟨later, rfl, hlast⟩ := padding_in_last (hflatten.trans htext) (by omega)
  rw [List.mem_append, not_or] at hsymbols
  rw [hrows]
  constructor
  case count => rw [List.length_append, List.length_singleton]; omega
  case full => rwa [List.dropLast_concat]
  case last => simpa using hgroups
  case ne_nil =>
    intro row hrow
    refine List.length_pos_iff.mp ?_
    rcases List.mem_append.mp hrow with hrow | hrow
    · rw [hfront row hrow]
      decide
    · rwa [List.mem_singleton.mp hrow]
  case nil_iff => exact iff_of_false (by simp) hdata
  case unpadded =>
    rw [List.dropLast_concat]
    exact fun row hrow hpad => hsymbols.1 (List.mem_flatten.mpr ⟨row, hrow, hpad⟩)
  case padded =>
    intro row hrow
    obtain rfl : last = row := by simpa using hrow
    exact ⟨later, padding, hlast, hsymbols.2, htwo⟩
  case text => rw [List.flatten_concat, hflatten, Base64.encode_eq_standard]

/-! ## Lines -/

/-- No line of a block holds a newline. -/
theorem not_mem_lines (hlabel : '\n' ∉ label) : ∀ line ∈ lines label data, '\n' ∉ line := by
  intro line hline
  rw [lines, List.append_assoc, List.singleton_append, List.mem_cons, List.mem_append,
    List.mem_singleton] at hline
  rcases hline with rfl | hrow | rfl
  · simp [beginMarker_eq, hlabel]
  · exact fun h => (mem_encode_plain (mem_encode_of_mem_bodyRows hrow h)).2.2.1 rfl
  · simp [endMarker_eq, hlabel]

/-- The text of a block, split at its newlines: the BEGIN line, the rows, the END line, and
    nothing after the one newline at the end.  The rows are laid out as the standard says. -/
theorem splitOn_encode_layout (label : String) (data : List UInt8) (hlabel : '\n' ∉ label.toList) :
    ∃ rows, List.splitOn '\n' (encode label data).toList
        = ["-----BEGIN ".toList ++ label.toList ++ "-----".toList] ++ rows
          ++ ["-----END ".toList ++ label.toList ++ "-----".toList, []]
      ∧ "-----\n".toList <:+ (encode label data).toList
      ∧ Layout data rows := by
  have htext : (encode label data).toList = encodeChars label.toList data := String.toList_ofList
  refine ⟨bodyRows data, ?_, ?_, layout_bodyRows data⟩
  · rw [htext, encodeChars, Text.splitOn_lines (not_mem_lines hlabel), lines, beginMarker_eq,
      endMarker_eq, List.append_assoc]
    rfl
  · rw [htext, encodeChars_eq, endMarker_eq]
    refine ⟨beginMarker label.toList ++ bodyText data ++ ("-----END ".toList ++ label.toList), ?_⟩
    simp only [List.append_assoc]
    rfl

/-- Forty-nine bytes fill one row and begin another, and 48 of them fill it exactly. -/
theorem splitOn_encode_layout_boundary :
    '\n' ∉ "A".toList
    ∧ (∃ rows, List.splitOn '\n' (encode "A" (List.replicate 48 0)).toList
        = ["-----BEGIN A-----".toList] ++ rows ++ ["-----END A-----".toList, []] ∧ rows.length = 1)
    ∧ ∃ rows, List.splitOn '\n' (encode "A" (List.replicate 49 0)).toList
        = ["-----BEGIN A-----".toList] ++ rows ++ ["-----END A-----".toList, []]
          ∧ rows.length = 2 := by
  have hlabel : '\n' ∉ "A".toList := by decide
  obtain ⟨full, hfull, -, hone⟩ := splitOn_encode_layout "A" (List.replicate 48 0) hlabel
  obtain ⟨more, hmore, -, htwo⟩ := splitOn_encode_layout "A" (List.replicate 49 0) hlabel
  exact ⟨hlabel, ⟨full, hfull, hone.count⟩, ⟨more, hmore, htwo.count⟩⟩

end ProxyTrust.Pem
