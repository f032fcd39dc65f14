/-
  Rows of base64 symbols.

  1. **The alphabet** — the 64 symbols and the 64 values correspond, and no symbol is the padding.
     These are facts about 64 numbers, decided one by one, and all that is used of the alphabet.

  2. **Packing** — `sextets` are the values of the symbols that bytes are written with.  Packing
     them gives the bytes back, and any row of values that no spare bit and no lonely symbol
     spoils is the row of the bytes that it packs (`sextets_pack`).  The induction follows the
     recursion of `sextets`, three bytes or four values at a time.

  3. **Rows** — `row values padding` is the text of values with padding after them.  `encode`
     writes the row of its sextets, and both readers of the library read exactly such rows: what
     they take is a row, and a row whose padding stands where it may is taken.
-/
import ProxyTrust.Base64.Symbol
import ProxyTrust.Proofs.Outcome
import ProxyTrust.Proofs.Text.Encoding

namespace ProxyTrust.Base64

/-! ## The alphabet -/

/-- The byte of a symbol. -/
def symbolByte (n : Nat) : UInt8 := UInt8.ofNat (symbol n).toNat

/-- The values of a row of symbols. -/
def Values (values : List Nat) : Prop := ∀ v ∈ values, v < 64

theorem symbol_ascii : ∀ n < 64, (symbol n).toNat < 128 := by decide

theorem value?_symbolByte : ∀ n < 64, value? (symbolByte n) = some n := by decide

theorem symbolByte_ne_pad : ∀ n < 64, symbolByte n ≠ pad := by decide

/-- A byte with a value is the symbol of that value. -/
theorem eq_symbolByte_of_value? {b : UInt8} {v : Nat} (h : value? b = some v) :
    v < 64 ∧ b = symbolByte v := by
  have hall : ∀ n < 256, ∀ v ∈ value? (UInt8.ofNat n), v < 64 ∧ UInt8.ofNat n = symbolByte v := by
    decide +kernel
  have hb := hall b.toNat b.toNat_lt v
  rw [UInt8.ofNat_toNat] at hb
  exact hb h

/-! ## Packing -/

/-- The values of the symbols that bytes are written with. -/
def sextets : List UInt8 → List Nat
  | a :: b :: c :: rest =>
    a.toNat / 4 :: (a.toNat % 4 * 16 + b.toNat / 16) :: (b.toNat % 16 * 4 + c.toNat / 64) ::
      (c.toNat % 64) :: sextets rest
  | [a, b] => [a.toNat / 4, a.toNat % 4 * 16 + b.toNat / 16, b.toNat % 16 * 4]
  | [a] => [a.toNat / 4, a.toNat % 4 * 16]
  | [] => []

/-- Sextets are values of symbols. -/
theorem values_sextets (data : List UInt8) : Values (sextets data) := by
  intro v hv
  induction data using sextets.induct with
  | case1 a b c rest ih =>
    have ha := a.toNat_lt
    have hb := b.toNat_lt
    have hc := c.toNat_lt
    simp only [sextets, List.mem_cons] at hv
    rcases hv with rfl | rfl | rfl | rfl | hv
    · omega
    · omega
    · omega
    · omega
    · exact ih hv
  | case2 a b =>
    have ha := a.toNat_lt
    have hb := b.toNat_lt
    simp only [sextets, List.mem_cons, List.not_mem_nil, or_false] at hv
    omega
  | case3 a =>
    have ha := a.toNat_lt
    simp only [sextets, List.mem_cons, List.not_mem_nil, or_false] at hv
    omega
  | case4 => nomatch hv

/-- No row of sextets ends in a group of a single symbol. -/
theorem length_sextets_mod (data : List UInt8) : (sextets data).length % 4 ≠ 1 := by
  induction data using sextets.induct with
  | case1 a b c rest ih =>
    simp only [sextets, List.length_cons]
    omega
  | case2 a b => simp [sextets]
  | case3 a => simp [sextets]
  | case4 => simp [sextets]

/-- The bits that fill up the last sextet are zeros. -/
theorem spareBits_sextets (data : List UInt8) : spareBits (sextets data) = 0 := by
  induction data using sextets.induct with
  | case1 a b c rest ih => simpa [sextets, spareBits] using ih
  | case2 a b =>
    have hspare : spareBits (sextets [a, b]) = b.toNat % 16 * 4 % 4 := rfl
    omega
  | case3 a =>
    have hspare : spareBits (sextets [a]) = a.toNat % 4 * 16 % 16 := rfl
    omega
  | case4 => rfl

theorem ofNat_eq {n : Nat} {b : UInt8} (h : n = b.toNat) : UInt8.ofNat n = b := by
  rw [h, UInt8.ofNat_toNat]

/-- Packing gives the bytes back. -/
theorem pack_sextets (data : List UInt8) : pack (sextets data) = data := by
  induction data using sextets.induct with
  | case1 a b c rest ih =>
    have ha := a.toNat_lt
    have hb := b.toNat_lt
    have hc := c.toNat_lt
    rw [sextets, pack, ih]
    congr 1
    · exact ofNat_eq (by omega)
    congr 1
    · exact ofNat_eq (by omega)
    congr 1
    exact ofNat_eq (by omega)
  | case2 a b =>
    have ha := a.toNat_lt
    have hb := b.toNat_lt
    rw [sextets, pack]
    congr 1
    · exact ofNat_eq (by omega)
    congr 1
    exact ofNat_eq (by omega)
  | case3 a =>
    have ha := a.toNat_lt
    rw [sextets, pack]
    congr 1
    exact ofNat_eq (by omega)
  | case4 => rfl

/-- Values without spare bits and without a lonely symbol are the sextets of the bytes they pack. -/
theorem sextets_pack {values : List Nat} (hvalues : Values values) (hlength : values.length % 4 ≠ 1)
    (hspare : spareBits values = 0) : sextets (pack values) = values := by
  have hbyte (n : Nat) (hn : n < 256) : (UInt8.ofNat n).toNat = n := by
    rw [UInt8.toNat_ofNat', Nat.mod_eq_of_lt hn]
  induction values using pack.induct with
  | case1 a b c d rest ih =>
    simp only [Values, List.forall_mem_cons] at hvalues
    obtain ⟨ha, hb, hc, hd, hrest⟩ := hvalues
    have hrestLength : rest.length % 4 ≠ 1 := by
      simp only [List.length_cons] at hlength
      omega
    have hrestSpare : spareBits rest = 0 := hspare
    rw [pack, sextets, ih hrest hrestLength hrestSpare,
      hbyte _ (by omega), hbyte _ (by omega), hbyte _ (by omega)]
    congr 1
    · omega
    congr 1
    · omega
    congr 1
    · omega
    congr 1
    omega
  | case2 a b c =>
    simp only [Values, List.forall_mem_cons] at hvalues
    obtain ⟨ha, hb, hc, -⟩ := hvalues
    have hspare : c % 4 = 0 := hspare
    rw [pack, sextets, hbyte _ (by omega), hbyte _ (by omega)]
    congr 1
    · omega
    congr 1
    · omega
    congr 1
    omega
  | case3 a b =>
    simp only [Values, List.forall_mem_cons] at hvalues
    obtain ⟨ha, hb, -⟩ := hvalues
    have hspare : b % 16 = 0 := hspare
    rw [pack, sextets, hbyte _ (by omega)]
    congr 1
    · omega
    congr 1
    omega
  | case4 values hfour hthree htwo =>
    -- what is left is the empty row and the lonely symbol
    match values, hfour, hthree, htwo with
    | [], _, _, _ => rfl
    | [a], _, _, _ => exact absurd rfl hlength
    | [a, b], _, _, htwo => exact absurd rfl (htwo a b)
    | [a, b, c], _, hthree, _ => exact absurd rfl (hthree a b c)
    | a :: b :: c :: d :: rest, hfour, _, _ => exact absurd rfl (hfour a b c d rest)

/-! ## Rows -/

/-- The text of values, with padding after them. -/
def row (values : List Nat) (padding : Nat) : List UInt8 :=
  values.map symbolByte ++ List.replicate padding pad

/-- How many padding bytes fill up the last group of a row of symbols. -/
def fill (symbols : Nat) : Nat := (4 - symbols % 4) % 4

/-- What is written is the row of the sextets, with the padding that fills it up. -/
theorem encode_eq (data : List UInt8) :
    encode data = (sextets data).map symbol ++ List.replicate (fill (sextets data).length) '=' := by
  induction data using sextets.induct with
  | case1 a b c rest ih =>
    have hfill : fill (sextets (a :: b :: c :: rest)).length = fill (sextets rest).length := by
      simp only [fill, sextets, List.length_cons]
      omega
    rw [hfill, encode, sextets, ih]
    rfl
  | case2 a b => rfl
  | case3 a => rfl
  | case4 => rfl

/-- A character of base64 text is a symbol or the padding. -/
theorem mem_encode {data : List UInt8} {c : Char} (h : c ∈ encode data) :
    (∃ v < 64, c = symbol v) ∨ c = '=' := by
  rw [encode_eq] at h
  rcases List.mem_append.mp h with hc | hc
  · obtain ⟨v, hv, rfl⟩ := List.mem_map.mp hc
    exact .inl ⟨v, values_sextets data v hv, rfl⟩
  · exact .inr (List.eq_of_mem_replicate hc)

/-- The bytes that `encode` writes. -/
theorem encodeUtf8_encode (data : List UInt8) :
    Text.encodeUtf8 (encode data) = row (sextets data) (fill (sextets data).length) := by
  rw [encode_eq, Text.encodeUtf8_ascii, row, List.map_append, List.map_map, List.map_replicate]
  · rfl
  · intro c hc
    rw [← encode_eq] at hc
    rcases mem_encode hc with ⟨v, hv, rfl⟩ | rfl
    · exact symbol_ascii v hv
    · decide

theorem length_row (values : List Nat) (padding : Nat) :
    (row values padding).length = values.length + padding := by
  simp [row]

theorem row_cons (v : Nat) (values : List Nat) (padding : Nat) :
    row (v :: values) padding = symbolByte v :: row values padding := rfl

/-! ## Reading rows -/

/-- A row of symbols is read exactly as the values that it is made of; the offset is only told in
    faults. -/
theorem readSymbols_eq_ok_iff {text : List UInt8} {values : List Nat} (offset : Nat) :
    readSymbols offset text = .ok values ↔ Values values ∧ text = values.map symbolByte := by
  induction text generalizing offset values with
  | nil =>
    rw [readSymbols]
    constructor
    · intro h
      obtain rfl := Except.ok.inj h
      exact ⟨by simp [Values], rfl⟩
    · rintro ⟨-, h⟩
      obtain rfl := List.map_eq_nil_iff.mp h.symm
      rfl
  | cons b text ih =>
    -- the first byte is the symbol of a value, on both sides, and the rest is read at the next
    -- offset
    rw [readSymbols]
    constructor
    · intro h
      cases hvalue : value? b with
      | none => rw [hvalue] at h; nomatch h
      | some v =>
        rw [hvalue] at h
        obtain ⟨later, hrest, rfl⟩ := map_eq_ok_iff.mp h
        obtain ⟨hlater, rfl⟩ := (ih (offset + 1)).mp hrest
        obtain ⟨hv, rfl⟩ := eq_symbolByte_of_value? hvalue
        exact ⟨List.forall_mem_cons.mpr ⟨hv, hlater⟩, rfl⟩
    · rintro ⟨hvalues, htext⟩
      cases values with
      | nil => nomatch htext
      | cons v later =>
        obtain ⟨hv, hlater⟩ := List.forall_mem_cons.mp hvalues
        obtain ⟨rfl, rfl⟩ := List.cons.inj htext
        rw [value?_symbolByte v hv]
        exact map_eq_ok_iff.mpr ⟨later, (ih (offset + 1)).mpr ⟨hlater, rfl⟩, rfl⟩

/-- Padding that is read is nothing but padding. -/
theorem eq_replicate_of_readPadding {text : List UInt8} {first position count total : Nat}
    (h : readPadding first position count text = .ok total) :
    ∃ more, total = count + more ∧ text = List.replicate more pad := by
  induction text generalizing position count with
  | nil => exact ⟨0, (Except.ok.inj h).symm, rfl⟩
  | cons b text ih =>
    rw [readPadding] at h
    split at h
    · next hpad =>
      obtain ⟨more, htotal, rfl⟩ := ih h
      simp only [Bool.and_eq_true, decide_eq_true_eq] at hpad
      exact ⟨more + 1, by omega, by rw [hpad.1]; rfl⟩
    · nomatch h

/-- Padding is read where it may stand. -/
theorem readPadding_replicate {position more : Nat} (first count : Nat)
    (hplaces : ∀ i < more, 2 ≤ (position + i) % 4) :
    readPadding first position count (List.replicate more pad) = .ok (count + more) := by
  induction more generalizing position count with
  | zero => rfl
  | succ more ih =>
    have hfirst : 2 ≤ position % 4 := hplaces 0 (Nat.succ_pos more)
    have hlater : ∀ i < more, 2 ≤ (position + 1 + i) % 4 := by
      intro i hi
      have hplace := hplaces (i + 1) (by omega)
      rwa [show position + (i + 1) = position + 1 + i by omega] at hplace
    rw [List.replicate_succ, readPadding, if_pos (by simp [hfirst]), ih (count + 1) hlater]
    congr 1
    omega

/-- A tail that is read is a row. -/
theorem eq_row_of_readTail {text : List UInt8} {start position : Nat} {tail : Tail}
    (h : readTail start position text = .ok tail) :
    Values tail.symbols ∧ text = row tail.symbols tail.padding := by
  induction text generalizing position tail with
  | nil =>
    obtain rfl := Except.ok.inj h
    exact ⟨by simp [Values], rfl⟩
  | cons b text ih =>
    rw [readTail] at h
    split at h
    · -- from the first padding on there is nothing but padding
      next hpad =>
      split at h
      · nomatch h
      · obtain ⟨total, hrest, rfl⟩ := map_eq_ok_iff.mp h
        obtain ⟨more, rfl, rfl⟩ := eq_replicate_of_readPadding hrest
        refine ⟨by simp [Values], ?_⟩
        rw [hpad, Nat.add_comm 1 more]
        rfl
    · cases hvalue : value? b with
      | none => rw [hvalue] at h; nomatch h
      | some v =>
        rw [hvalue] at h
        obtain ⟨later, hrest, rfl⟩ := map_eq_ok_iff.mp h
        obtain ⟨hlater, rfl⟩ := ih hrest
        obtain ⟨hv, rfl⟩ := eq_symbolByte_of_value? hvalue
        exact ⟨List.forall_mem_cons.mpr ⟨hv, hlater⟩, rfl⟩

/-- A row is read as a tail where its padding may stand. -/
theorem readTail_row {values : List Nat} {position padding : Nat} (start : Nat)
    (hvalues : Values values) (hplaces : ∀ i < padding, 2 ≤ (position + values.length + i) % 4) :
    readTail start position (row values padding) = .ok ⟨values, padding⟩ := by
  induction values generalizing position with
  | nil =>
    -- the places of the padding move along with the position
    cases padding with
    | zero => rfl
    | succ padding =>
      have hfirst : 2 ≤ position % 4 := hplaces 0 (Nat.succ_pos padding)
      have hlater : ∀ i < padding, 2 ≤ (position + 1 + i) % 4 := by
        intro i hi
        have hplace := hplaces (i + 1) (by omega)
        rwa [List.length_nil, Nat.add_zero, show position + (i + 1) = position + 1 + i by omega]
          at hplace
      have hrow : row [] (padding + 1) = pad :: List.replicate padding pad := rfl
      rw [hrow, readTail, if_pos rfl, if_neg (by omega), readPadding_replicate _ _ hlater,
        Nat.add_comm padding 1]
      rfl
  | cons v values ih =>
    obtain ⟨hv, hlater⟩ := List.forall_mem_cons.mp hvalues
    have hplaces : ∀ i < padding, 2 ≤ (position + 1 + values.length + i) % 4 := by
      intro i hi
      have hplace := hplaces i hi
      rwa [List.length_cons, show position + (values.length + 1) + i
        = position + 1 + values.length + i by omega] at hplace
    rw [row_cons, readTail, if_neg (symbolByte_ne_pad v hv), value?_symbolByte v hv]
    exact map_eq_ok_iff.mpr ⟨⟨values, padding⟩, ih hlater hplaces, rfl⟩

end ProxyTrust.Base64
