/-
  What was written is read back, with anything after it.

  1. **Lengths** — a length below 128 is its own byte; any other is a count of bytes and a row
     that spells it (`SpellsLength`), and the one that is written is the shortest of these
     (`spellsLength_lengthBytes` is the crux).  The relation says which rows a length can be read
     from, so that reading is one lemma about it and writing another.

  2. **Elements** — from there every reader of elements takes a written element apart into its
     header, its content and the bytes that follow.  Tag numbers up to 30 fit into the first byte,
     and lengths are words of 64 bits; both are hypotheses of every lemma here.  The reader that
     also knows indefinite lengths gives nothing else where the length is definite
     (`looseElement?_of_element`).

  3. **Lengths of what is inside** — a bound on an element bounds its content and its parts, so
     that a statement about a whole certificate needs one bound only.
-/
import ProxyTrust.Der.Element
import ProxyTrust.Proofs.Bytes

namespace ProxyTrust.Der

open Bytes (byteLength minimalBytes ofBigEndian)

variable {tag : UInt8} {content : List UInt8}

/-! ## Lengths -/

/-- Lengths are read as words of this many values. -/
def lengthBound : Nat := 18446744073709551616

theorem byteLength_le_of_lt_bound {n : Nat} (hn : n < lengthBound) : byteLength n ≤ 8 :=
  Bytes.byteLength_le_iff.mpr (show n < Bytes.rowCount 8 from hn)

theorem one_le_byteLength {n : Nat} (hn : n ≠ 0) : 1 ≤ byteLength n := by
  rw [byteLength, if_neg hn]
  exact Nat.le_add_left 1 _

/-- A row of bytes that spells a length, in as many digits as its first byte counts, or an
    indefinite one. -/
inductive SpellsLength : List UInt8 → Option Nat → Prop
  | short {b : UInt8} (hshort : b < 0x80) : SpellsLength [b] (some b.toNat)
  | indefinite : SpellsLength [0x80] none
  | long {b : UInt8} {digits : List UInt8} (hlong : ¬ b < 0x80) (hdefinite : b ≠ 0x80)
      (hknown : b ≠ 0xFF)
      (hcount : digits.length = b.toNat - 0x80) (hbound : ofBigEndian digits < lengthBound) :
      SpellsLength (b :: digits) (some (ofBigEndian digits))

/-- A spelled length is read, whatever stands behind it. -/
theorem SpellsLength.readLength {row : List UInt8} {length : Option Nat}
    (h : SpellsLength row length) (rest : List UInt8) :
      readLength (row ++ rest) = .ok (length, rest) := by
  cases h with
  | short hshort => rw [List.singleton_append, Der.readLength, if_pos hshort]
  | indefinite => rfl
  | @long b digits hlong hdefinite hknown hcount hbound =>
    have henough : ¬ (digits ++ rest).length < b.toNat - 0x80 := by
      rw [List.length_append, hcount]
      exact Nat.not_lt.mpr (Nat.le_add_right ..)
    rw [List.cons_append, Der.readLength, if_neg hlong, if_neg hdefinite, if_neg hknown]
    simp only [if_neg henough, List.take_left' hcount, List.drop_left' hcount]
    exact if_neg (Nat.not_le.mpr hbound)

/-- Bytes that are read as a length begin with a row that spells it.  The cases are those of the
    first byte. -/
theorem spellsLength_of_readLength {bytes rest : List UInt8} {length : Option Nat}
    (h : readLength bytes = .ok (length, rest)) :
      ∃ row, bytes = row ++ rest ∧ SpellsLength row length := by
  cases bytes with
  | nil => cases h
  | cons b bytes =>
    rw [readLength] at h
    -- one byte, an indefinite length, the reserved byte, or a count of bytes that spell it
    by_cases hshort : b < 0x80
    · rw [if_pos hshort] at h
      obtain ⟨rfl, rfl⟩ := Prod.mk.inj (Except.ok.inj h)
      exact ⟨[b], rfl, .short hshort⟩
    rw [if_neg hshort] at h
    by_cases hopen : b = 0x80
    · rw [if_pos hopen] at h
      obtain ⟨rfl, rfl⟩ := Prod.mk.inj (Except.ok.inj h)
      exact ⟨[b], rfl, hopen ▸ .indefinite⟩
    rw [if_neg hopen] at h
    by_cases hreserved : b = 0xFF
    · rw [if_pos hreserved] at h
      cases h
    rw [if_neg hreserved] at h
    simp only at h
    by_cases hcut : bytes.length < b.toNat - 0x80
    · rw [if_pos hcut] at h
      cases h
    rw [if_neg hcut] at h
    split at h
    · cases h
    · next hword =>
      obtain ⟨rfl, rfl⟩ := Prod.mk.inj (Except.ok.inj h)
      have hcount : (bytes.take (b.toNat - 0x80)).length = b.toNat - 0x80 :=
        List.length_take_of_le (Nat.le_of_not_lt hcut)
      exact ⟨b :: bytes.take (b.toNat - 0x80), by rw [List.cons_append, List.take_append_drop],
        .long hshort hopen hreserved hcount (Nat.lt_of_not_le hword)⟩

/-- The length that is written is spelled by its row.  Eight digits are enough below the bound, so
    that the byte that counts them is neither that of an indefinite length nor the reserved one. -/
theorem spellsLength_lengthBytes {n : Nat} (hn : n < lengthBound) :
    SpellsLength (lengthBytes n) (some n) := by
  rw [lengthBytes]
  split
  · next hshort =>
    have hbyte : (UInt8.ofNat n).toNat = n := by rw [UInt8.toNat_ofNat']; omega
    have hlow : UInt8.ofNat n < 0x80 := by rw [UInt8.lt_iff_toNat_lt, hbyte]; exact hshort
    have hspells := SpellsLength.short hlow
    rwa [hbyte] at hspells
  · next hlong =>
    have hcount : (minimalBytes n).length = byteLength n := Bytes.length_minimalBytes n
    have hmost := byteLength_le_of_lt_bound hn
    have hleast := one_le_byteLength (n := n) (by omega)
    have hbyte : (UInt8.ofNat (0x80 + (minimalBytes n).length)).toNat = 0x80 + byteLength n := by
      rw [UInt8.toNat_ofNat', hcount]
      omega
    have hhigh : ¬ UInt8.ofNat (0x80 + (minimalBytes n).length) < 0x80 := by
      rw [UInt8.lt_iff_toNat_lt, hbyte]
      exact Nat.not_lt.mpr (Nat.le_add_right 128 _)
    have hother (b : UInt8) (hb : 0x80 + byteLength n ≠ b.toNat) :
        UInt8.ofNat (0x80 + (minimalBytes n).length) ≠ b := by
      rintro rfl
      exact hb hbyte.symm
    have hdefinite := hother 0x80 (show 0x80 + byteLength n ≠ 0x80 by omega)
    have hknown := hother 0xFF (show 0x80 + byteLength n ≠ 0xFF by omega)
    have hvalue : ofBigEndian (minimalBytes n) = n := Bytes.ofBigEndian_minimalBytes n
    have hdigits :
        (minimalBytes n).length = (UInt8.ofNat (0x80 + (minimalBytes n).length)).toNat - 0x80 := by
      rw [hbyte, hcount]
      exact (Nat.add_sub_cancel_left ..).symm
    have hspells := SpellsLength.long hhigh hdefinite hknown hdigits (by rwa [hvalue])
    rwa [hvalue] at hspells

/-- A written length is read, whatever stands behind it. -/
theorem readLength_lengthBytes {n : Nat} (hn : n < lengthBound) (rest : List UInt8) :
    readLength (lengthBytes n ++ rest) = .ok (some n, rest) :=
  (spellsLength_lengthBytes hn).readLength rest

/-! ## Elements -/

/-- The header of a written element. -/
def headerOf (tag : UInt8) (length : Nat) : Header :=
  ⟨.ofByte tag, 0x20 ≤ tag.toNat % 64, tag.toNat % 32, some length⟩

/-- The header of a written element is read, with its content left to be taken. -/
theorem looseHeader_write (htag : tag.toNat % 32 ≠ 31) (hlength : content.length < lengthBound)
    (rest : List UInt8) :
    looseHeader (write tag content ++ rest)
      = .ok (headerOf tag content.length, content ++ rest) := by
  have hread : readLength (lengthBytes content.length ++ (content ++ rest))
      = .ok (some content.length, content ++ rest) := readLength_lengthBytes hlength _
  rw [write, List.cons_append, List.append_assoc, looseHeader, readTag, if_neg htag]
  simp only [hread]
  rfl

theorem header_write (htag : tag.toNat % 32 ≠ 31) (hlength : content.length < lengthBound)
    (rest : List UInt8) :
    header (write tag content ++ rest)
      = .ok ((headerOf tag content.length, content.length), content ++ rest) := by
  rw [header, looseHeader_write htag hlength]
  rfl

/-- The content of a written element, taken by its length. -/
theorem takeContent_append (content rest : List UInt8) :
    takeContent content.length (content ++ rest) = .ok (content, rest) := by
  have hlong : ¬ (content ++ rest).length < content.length := by
    rw [List.length_append]
    omega
  rw [takeContent, if_neg hlong, List.take_left, List.drop_left]

/-- A written element is read, with its content and what stands behind it. -/
theorem element_write (htag : tag.toNat % 32 ≠ 31) (hlength : content.length < lengthBound)
    (rest : List UInt8) :
    element (write tag content ++ rest) = .ok (⟨headerOf tag content.length, content⟩, rest) := by
  rw [element, header_write htag hlength]
  simp only [takeContent_append]
  rfl

/-- A written element with nothing after it. -/
theorem element_write_last (htag : tag.toNat % 32 ≠ 31) (hlength : content.length < lengthBound) :
    element (write tag content) = .ok (⟨headerOf tag content.length, content⟩, []) := by
  have hread := element_write htag hlength []
  rwa [List.append_nil] at hread

/-- A written element gives its content to a reader that asks for its tag number. -/
theorem contentOf_write {number : Nat} (hnumber : tag.toNat % 32 = number) (htag : number ≠ 31)
    (hlength : content.length < lengthBound) (rest : List UInt8) :
    contentOf number (write tag content ++ rest) = .ok (content, rest) := by
  rw [contentOf, element_write (by rw [hnumber]; exact htag) hlength]
  exact if_pos hnumber

/-- The wider rules read an element of definite length as the narrower ones do. -/
theorem looseElement?_of_element {bytes rest : List UInt8} {e : Element}
    (h : element bytes = .ok (e, rest)) : looseElement? bytes = some (e, rest) := by
  rw [element, header] at h
  rw [looseElement?]
  cases hheader : looseHeader bytes with
  | error fault => rw [hheader] at h; nomatch h
  | ok read =>
    obtain ⟨found, behind⟩ := read
    rw [hheader] at h
    cases hlength : found.length with
    | none => simp only [hlength] at h; nomatch h
    | some length =>
      simp only [hlength, takeContent] at h ⊢
      split at h
      · nomatch h
      · next hlong =>
        rw [if_neg hlong]
        exact congrArg some (Except.ok.inj h)

theorem looseElement?_write (htag : tag.toNat % 32 ≠ 31) (hlength : content.length < lengthBound)
    (rest : List UInt8) :
    looseElement? (write tag content ++ rest)
      = some (⟨headerOf tag content.length, content⟩, rest) :=
  looseElement?_of_element (element_write htag hlength rest)

theorem consumed_append (read rest : List UInt8) : consumed (read ++ rest) rest = read := by
  rw [consumed, List.length_append, Nat.add_sub_cancel, List.take_left]

/-! ## Lengths of what is inside -/

theorem length_lt_write (tag : UInt8) (content : List UInt8) :
    content.length < (write tag content).length := by
  rw [write, List.length_cons, List.length_append]
  omega

theorem content_lt {bound : Nat} (h : (write tag content).length < bound) :
    content.length < bound :=
  Nat.lt_trans (length_lt_write tag content) h

theorem part_lt {parts : List (List UInt8)} {bound : Nat} (h : (sequence parts).length < bound)
    {part : List UInt8} (hpart : part ∈ parts) : part.length < bound := by
  have hflat : part.length ≤ parts.flatten.length := (List.sublist_flatten_of_mem hpart).length_le
  exact Nat.lt_of_le_of_lt hflat (content_lt h)

end ProxyTrust.Der
