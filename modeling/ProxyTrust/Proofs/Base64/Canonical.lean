/-
  The canonical form of base64, and the two readers.

  1. **Reading the canonical form** — a row of sextets is cut into a front of whole groups and a
     tail, wherever the reader puts the cut (`read_canonical`).  The strict reader cuts off the
     last four bytes and the lenient one the last eight, and this is all that they differ in here.

  2. **Only the canonical form** — a text that the strict reader takes is a front of symbols and a
     tail that is closed and has no spare bits, and these are the sextets of the bytes read from
     it, with their own padding (`eq_encode_of_decode`).

  3. **The two readers** — `Strict.decode_eq_ok_iff` is the main statement: the strict reader
     takes one text for every row of bytes, the one that `encode` writes.  The crux is that its
     last group decides everything: two to four symbols, and padding that makes them four.  The
     lenient reader takes that text as well, though it looks at the text in groups of eight.
-/
import ProxyTrust.Base64.Decoding
import ProxyTrust.Proofs.Base64.Row

namespace ProxyTrust.Base64

/-! ## The canonical text -/

/-- The canonical text of bytes is empty, or fills its groups of four with two padding bytes at
    most. -/
theorem row_cases (data : List UInt8) :
    (data = [] ∧ row (sextets data) (fill (sextets data).length) = [])
      ∨ (row (sextets data) (fill (sextets data).length) ≠ []
        ∧ ((sextets data).length + fill (sextets data).length) % 4 = 0
        ∧ fill (sextets data).length ≤ 2) := by
  have hmod := length_sextets_mod data
  by_cases hdata : data = []
  · exact .inl ⟨hdata, by rw [hdata]; rfl⟩
  · refine .inr ⟨?_, ?_, ?_⟩
    · intro hempty
      have hnone : sextets data = [] := List.map_eq_nil_iff.mp (List.append_eq_nil_iff.mp hempty).1
      exact hdata (by rw [← pack_sextets data, hnone]; rfl)
    · rw [fill]
      omega
    · rw [fill]
      omega

/-- Both readers, on a canonical text that is cut at a multiple of four: the symbols before the
    cut, and the last ones with their padding after it. -/
theorem read_canonical (data : List UInt8) {start : Nat} (hstart : start % 4 = 0)
    (hle : start ≤ (sextets data).length) :
    readSymbols 0 ((row (sextets data) (fill (sextets data).length)).take start)
        = .ok ((sextets data).take start)
      ∧ readTail start 0 ((row (sextets data) (fill (sextets data).length)).drop start)
        = .ok ⟨(sextets data).drop start, fill (sextets data).length⟩ := by
  have hvalues := values_sextets data
  have hlength : start ≤ ((sextets data).map symbolByte).length := by simpa using hle
  constructor
  · -- the front is of symbols alone
    rw [row, List.take_append_of_le_length hlength, ← List.map_take]
    refine (readSymbols_eq_ok_iff 0).mpr ⟨?_, rfl⟩
    exact fun v hv => hvalues v (List.mem_of_mem_take hv)
  · -- in the tail, padding stands only from the third place of a group on
    rw [row, List.drop_append_of_le_length hlength, ← List.map_drop]
    refine readTail_row start ?_ ?_
    · exact fun v hv => hvalues v (List.mem_of_mem_drop hv)
    · intro i hi
      have hmod := length_sextets_mod data
      rw [List.length_drop]
      rw [fill] at hi
      omega

theorem finish_sextets (text data : List UInt8) : finish text (sextets data) = .ok data := by
  rw [finish, if_pos (spareBits_sextets data), pack_sextets]

/-- The symbols of a row that ends well pack the bytes that are told. -/
theorem eq_pack_of_finish {text data : List UInt8} {values : List Nat}
    (h : finish text values = .ok data) : spareBits values = 0 ∧ data = pack values := by
  rw [finish] at h
  split at h
  · next hspare => exact ⟨hspare, (Except.ok.inj h).symm⟩
  · nomatch h

/-! ## The strict reader -/

namespace Strict

/-- The last group of a text is closed exactly if it has two symbols or more and the padding makes
    them four. -/
theorem closed_eq_ok_iff {start : Nat} {tail : Tail} :
    closed start tail = .ok ()
      ↔ 2 ≤ tail.symbols.length ∧ tail.symbols.length + tail.padding = 4 := by
  rw [closed]
  split
  · next hfew =>
    constructor
    · intro h; nomatch h
    · intro h; omega
  · split
    · next hopen =>
      constructor
      · intro h; nomatch h
      · intro h; omega
    · next hmany hclosed =>
      constructor
      · intro _; omega
      · intro _; rfl

/-- The steps that a text of any length but zero is read with. -/
theorem steps_of_decode {text data : List UInt8} (hempty : text ≠ []) (h : decode text = .ok data) :
    ∃ front tail, readSymbols 0 (text.take (tailStart 4 text)) = .ok front
      ∧ readTail (tailStart 4 text) 0 (text.drop (tailStart 4 text)) = .ok tail
      ∧ closed (tailStart 4 text) tail = .ok ()
      ∧ finish text (front ++ tail.symbols) = .ok data := by
  rw [decode, if_neg hempty] at h
  split at h
  · nomatch h
  · obtain ⟨front, hfront, h⟩ := bind_eq_ok_iff.mp h
    obtain ⟨tail, htail, h⟩ := bind_eq_ok_iff.mp h
    obtain ⟨⟨⟩, hclosed, h⟩ := bind_eq_ok_iff.mp h
    exact ⟨front, tail, hfront, htail, hclosed, h⟩

/-- What the reader takes is the canonical text of what it tells. -/
theorem eq_encode_of_decode {text data : List UInt8} (h : decode text = .ok data) :
    text = Text.encodeUtf8 (encode data) := by
  by_cases hempty : text = []
  · rw [decode, if_pos hempty] at h
    obtain rfl := Except.ok.inj h
    exact hempty
  obtain ⟨front, tail, hfront, htail, hclosed, hfinish⟩ := steps_of_decode hempty h
  obtain ⟨hspare, rfl⟩ := eq_pack_of_finish hfinish
  obtain ⟨htwo, hfour⟩ := closed_eq_ok_iff.mp hclosed
  obtain ⟨hfrontValues, hfrontText⟩ := (readSymbols_eq_ok_iff 0).mp hfront
  obtain ⟨htailValues, htailText⟩ := eq_row_of_readTail htail
  have hvalues : Values (front ++ tail.symbols) := by
    intro v hv
    rcases List.mem_append.mp hv with hv | hv
    · exact hfrontValues v hv
    · exact htailValues v hv
  -- the symbols before the last group are whole groups
  have hgroups : front.length % 4 = 0 := by
    have hlength := congrArg List.length hfrontText
    rw [List.length_map, List.length_take, tailStart] at hlength
    omega
  have hlength : (front ++ tail.symbols).length % 4 ≠ 1 := by
    rw [List.length_append]
    omega
  have hfill : fill (front ++ tail.symbols).length = tail.padding := by
    rw [fill, List.length_append]
    omega
  rw [encodeUtf8_encode, sextets_pack hvalues hlength hspare, hfill]
  calc text = text.take (tailStart 4 text) ++ text.drop (tailStart 4 text) :=
        (List.take_append_drop _ text).symm
    _ = front.map symbolByte ++ row tail.symbols tail.padding := by rw [hfrontText, htailText]
    _ = row (front ++ tail.symbols) tail.padding := by
        rw [row, row, List.map_append, List.append_assoc]

/-- The canonical text of bytes is read as these bytes. -/
theorem decode_encode (data : List UInt8) : decode (Text.encodeUtf8 (encode data)) = .ok data := by
  rw [encodeUtf8_encode]
  rcases row_cases data with ⟨rfl, _⟩ | ⟨hempty, hfour, hfill⟩
  · rfl
  have hlength := length_row (sextets data) (fill (sextets data).length)
  have hstart : tailStart 4 (row (sextets data) (fill (sextets data).length))
      = (sextets data).length + fill (sextets data).length - 4 := by
    have hpositive := List.length_pos_iff.mpr hempty
    rw [tailStart]
    omega
  have hcut : ((sextets data).length + fill (sextets data).length - 4) % 4 = 0
      ∧ (sextets data).length + fill (sextets data).length - 4 ≤ (sextets data).length := by omega
  obtain ⟨hfront, htail⟩ := read_canonical data hcut.1 hcut.2
  have hclosed : closed ((sextets data).length + fill (sextets data).length - 4)
      ⟨(sextets data).drop ((sextets data).length + fill (sextets data).length - 4),
        fill (sextets data).length⟩ = .ok () := by
    have hpositive := List.length_pos_iff.mpr hempty
    refine closed_eq_ok_iff.mpr ?_
    simp only [List.length_drop]
    omega
  rw [decode, if_neg hempty, if_neg (by omega)]
  refine bind_eq_ok_iff.mpr ⟨_, by rw [hstart]; exact hfront, ?_⟩
  refine bind_eq_ok_iff.mpr ⟨_, by rw [hstart]; exact htail, ?_⟩
  refine bind_eq_ok_iff.mpr ⟨(), by rw [hstart]; exact hclosed, ?_⟩
  rw [List.take_append_drop]
  exact finish_sextets _ data

/-- The strict reader takes one text for every row of bytes, the canonical one. -/
theorem decode_eq_ok_iff {text data : List UInt8} :
    decode text = .ok data ↔ text = Text.encodeUtf8 (encode data) := by
  constructor
  · exact eq_encode_of_decode
  · intro h
    rw [h]
    exact decode_encode data

end Strict

/-! ## The lenient reader -/

namespace Lenient

/-- The canonical text of bytes is read as these bytes. -/
theorem decode_encode (data : List UInt8) : decode (Text.encodeUtf8 (encode data)) = .ok data := by
  rw [encodeUtf8_encode]
  rcases row_cases data with ⟨rfl, _⟩ | ⟨hempty, hfour, hfill⟩
  · rfl
  have hlength := length_row (sextets data) (fill (sextets data).length)
  -- the cut leaves one or two groups of four, so that all of the padding stands behind it
  have hstart : tailStart 8 (row (sextets data) (fill (sextets data).length)) % 4 = 0
      ∧ tailStart 8 (row (sextets data) (fill (sextets data).length)) ≤ (sextets data).length := by
    have hpositive := List.length_pos_iff.mpr hempty
    rw [tailStart]
    omega
  obtain ⟨hfront, htail⟩ := read_canonical data hstart.1 hstart.2
  rw [decode, if_neg hempty, if_neg (by omega)]
  refine bind_eq_ok_iff.mpr ⟨_, hfront, ?_⟩
  refine bind_eq_ok_iff.mpr ⟨_, htail, ?_⟩
  rw [List.take_append_drop]
  exact finish_sextets _ data

end Lenient

end ProxyTrust.Base64
