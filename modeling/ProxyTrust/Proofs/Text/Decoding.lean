/-
  Texts that were written in UTF-8, and bytes that are such a text.

  Decoding is a machine over bytes.  Between characters it is in the state `between`; within one
  it owes some bytes, each from a range.  A piece that it gives is a character, or nothing where
  bytes are ill-formed.

  1. **First bytes** — the number in a first byte is what it owes a value to, and it decides the
     range of the second byte, so that each value has one form (`firstByte_two` to
     `firstByte_four`).  There are few first bytes, and each of them is looked at.

  2. **Later bytes** — a byte in the range that is owed adds its six bits.

  3. **Texts** — the bytes of one character take the machine from between characters to between
     characters, with that character for a piece.  Hence a text is read back whole.

  4. **The other way** — bytes without an ill-formed piece are those of a text.  The first byte
     tells how many bytes are owed; each of them must be in its range, else a piece would be
     missing; and the bytes that were read are then the form of their value, as the ranges leave
     out the values that have another form or none (`exists_utf8EncodeChar`).  So bytes are
     decoded exactly if they are the bytes of a text (`decodeUtf8?_eq_some_iff`).
-/
import ProxyTrust.Proofs.Text.Encoding

namespace ProxyTrust.Text

open String (utf8EncodeChar)

variable {rest bytes : List UInt8} {value : Nat}

/-! ## First bytes -/

/-- A byte below 128 is a character. -/
theorem firstByte_one {n : Nat} (h : n < 128) :
    firstByte (UInt8.ofNat n) = ([some (Char.ofNat n)], .between) := by
  have hvalue : (UInt8.ofNat n).toNat = n := by
    rw [UInt8.toNat_ofNat', Nat.mod_eq_of_lt (by omega)]
  have hsmall : UInt8.ofNat n < 0x80 := by
    rw [UInt8.lt_iff_toNat_lt, hvalue]
    exact h
  rw [firstByte, if_pos hsmall, hvalue]

/-- Before one byte. -/
theorem firstByte_two : ∀ n < 32, 2 ≤ n →
    firstByte (UInt8.ofNat (n + 192)) = ([], .owing n tailRange []) := by
  decide

/-- Before two bytes.  Small values have a shorter form, and some are those of surrogates. -/
theorem firstByte_three : ∀ n < 16, firstByte (UInt8.ofNat (n + 224))
    = ([], .owing n (if n = 0 then (0xA0, 0xBF) else if n = 13 then (0x80, 0x9F) else tailRange)
        [tailRange]) := by
  decide

/-- Before three bytes.  Small values have a shorter form, and great ones have none. -/
theorem firstByte_four : ∀ n < 5, firstByte (UInt8.ofNat (n + 240))
    = ([], .owing n (if n = 0 then (0x90, 0xBF) else if n = 4 then (0x80, 0x8F) else tailRange)
        [tailRange, tailRange]) := by
  decide

/-- After a first byte that owes, the machine is within a character. -/
theorem pieces_first {b : UInt8} {state : Utf8State} (h : firstByte b = ([], state)) :
    pieces .between (b :: rest) = pieces state rest := by
  rw [pieces, utf8Step, h]
  rfl

/-! ## Later bytes -/

/-- Six bits are within a range. -/
structure Within (range : UInt8 × UInt8) (n : Nat) : Prop where
  low : range.1.toNat ≤ n + 128
  high : n + 128 ≤ range.2.toNat

/-- Any six bits are within the range of a later byte that has no bounds of its own. -/
theorem within_tailRange {n : Nat} (h : n < 64) : Within tailRange n where
  low := show 128 ≤ n + 128 by omega
  high := show n + 128 ≤ 191 by omega

/-- A byte in its range adds its six bits to the value. -/
theorem utf8Step_owing {range : UInt8 × UInt8} {later : List (UInt8 × UInt8)} {n : Nat}
    (h : Within range n) :
    utf8Step (.owing value range later) (UInt8.ofNat (n + 128)) =
      match later with
      | [] => ([some (Char.ofNat (value * 64 + n))], .between)
      | next :: later => ([], .owing (value * 64 + n) next later) := by
  obtain ⟨low, high⟩ := range
  have hbound : n + 128 < 256 := Nat.lt_of_le_of_lt h.high (UInt8.toNat_lt high)
  have hvalue : (UInt8.ofNat (n + 128)).toNat = n + 128 := by
    rw [UInt8.toNat_ofNat', Nat.mod_eq_of_lt hbound]
  have hrange : (decide (low ≤ UInt8.ofNat (n + 128)) && decide (UInt8.ofNat (n + 128) ≤ high))
      = true := by
    simp only [UInt8.le_iff_toNat_le, hvalue, Bool.and_eq_true, decide_eq_true_eq]
    exact ⟨h.low, h.high⟩
  have hbits : (UInt8.ofNat (n + 128)).toNat - 128 = n := by rw [hvalue, Nat.add_sub_cancel]
  rw [utf8Step, if_pos hrange]
  generalize (UInt8.ofNat (n + 128)).toNat - 128 = bits at hbits ⊢
  obtain rfl := hbits
  rfl

/-- The last byte of a character gives the character. -/
theorem pieces_last {range : UInt8 × UInt8} {n : Nat} (h : Within range n) :
    pieces (.owing value range []) (UInt8.ofNat (n + 128) :: rest)
      = some (Char.ofNat (value * 64 + n)) :: pieces .between rest := by
  rw [pieces, utf8Step_owing h]
  rfl

/-- A byte before the last one hands the value on. -/
theorem pieces_more {range next : UInt8 × UInt8} {later : List (UInt8 × UInt8)} {n : Nat}
    (h : Within range n) :
    pieces (.owing value range (next :: later)) (UInt8.ofNat (n + 128) :: rest)
      = pieces (.owing (value * 64 + n) next later) rest := by
  rw [pieces, utf8Step_owing h]
  rfl

/-! ## Texts -/

/-- The bytes of a character are one piece, whatever follows them. -/
theorem pieces_utf8EncodeChar (c : Char) (rest : List UInt8) :
    pieces .between (utf8EncodeChar c ++ rest) = some c :: pieces .between rest := by
  have hvalid : c.val.toNat < 0xD800 ∨ (0xDFFF < c.val.toNat ∧ c.val.toNat < 0x110000) := c.valid
  have hchar : Char.ofNat c.val.toNat = c := Char.ofNat_toNat c
  generalize hv : c.val.toNat = v at hvalid hchar
  rw [utf8EncodeChar, hv]
  by_cases hone : v ≤ 127
  · -- one byte
    rw [if_pos hone, List.singleton_append, pieces, utf8Step, firstByte_one (by omega), hchar]
    rfl
  · rw [if_neg hone]
    by_cases htwo : v ≤ 2047
    · -- two bytes
      have hsum : v / 64 % 32 * 64 + v % 64 = v := by omega
      simp only [if_pos htwo, List.cons_append, List.nil_append]
      rw [pieces_first (firstByte_two _ (by omega) (by omega)),
        pieces_last (within_tailRange (by omega)), hsum, hchar]
    · rw [if_neg htwo]
      by_cases hthree : v ≤ 65535
      · -- three bytes, the second one in the range that the first one leaves
        have hsum : (v / 4096 % 16 * 64 + v / 64 % 64) * 64 + v % 64 = v := by omega
        have hsecond : Within (if v / 4096 % 16 = 0 then (0xA0, 0xBF)
            else if v / 4096 % 16 = 13 then (0x80, 0x9F) else tailRange) (v / 64 % 64) := by
          split
          · exact ⟨show 160 ≤ _ by omega, show _ ≤ 191 by omega⟩
          · split
            · exact ⟨show 128 ≤ _ by omega, show _ ≤ 159 by omega⟩
            · exact within_tailRange (by omega)
        simp only [if_pos hthree, List.cons_append, List.nil_append]
        rw [pieces_first (firstByte_three _ (by omega)), pieces_more hsecond,
          pieces_last (within_tailRange (by omega)), hsum, hchar]
      · have hsum :
          ((v / 262144 % 8 * 64 + v / 4096 % 64) * 64 + v / 64 % 64) * 64 + v % 64 = v := by
          omega
        have hsecond : Within (if v / 262144 % 8 = 0 then (0x90, 0xBF)
            else if v / 262144 % 8 = 4 then (0x80, 0x8F) else tailRange) (v / 4096 % 64) := by
          split
          · exact ⟨show 144 ≤ _ by omega, show _ ≤ 191 by omega⟩
          · split
            · exact ⟨show 128 ≤ _ by omega, show _ ≤ 143 by omega⟩
            · exact within_tailRange (by omega)
        simp only [if_neg hthree, List.cons_append, List.nil_append]
        rw [pieces_first (firstByte_four _ (by omega)), pieces_more hsecond,
          pieces_more (within_tailRange (by omega)), pieces_last (within_tailRange (by omega)),
            hsum, hchar]

/-- The bytes of a text are its characters, one piece each. -/
theorem pieces_encodeUtf8 (s : List Char) : pieces .between (encodeUtf8 s) = s.map some := by
  induction s with
  | nil => rfl
  | cons c s ih =>
    have hcons : encodeUtf8 (c :: s) = utf8EncodeChar c ++ encodeUtf8 s := rfl
    rw [hcons, pieces_utf8EncodeChar, ih, List.map_cons]

/-- So nothing is lost where the bytes are those of a text. -/
theorem decodeLossy_encodeUtf8 (s : List Char) : decodeLossy (encodeUtf8 s) = s := by
  rw [decodeLossy, pieces_encodeUtf8, List.map_map]
  exact List.map_id s

/-- A text is read back from its bytes. -/
theorem decodeUtf8?_encodeUtf8 (s : List Char) : decodeUtf8? (encodeUtf8 s) = some s := by
  rw [decodeUtf8?, pieces_encodeUtf8]
  induction s with
  | nil => rfl
  | cons c s ih =>
    rw [List.map_cons, List.mapM_cons, ih]
    rfl

/-! ## Nothing else -/

/-- The other bytes begin no character. -/
theorem firstByte_ill : ∀ n < 256, (128 ≤ n ∧ n < 194) ∨ 245 ≤ n →
    firstByte (UInt8.ofNat n) = ([none], .between) := by
  decide +kernel

/-- A byte is one of four first bytes, or none. -/
theorem firstByte_cases (b : UInt8) :
    (∃ n < 128, b = UInt8.ofNat n) ∨ (∃ n < 32, 2 ≤ n ∧ b = UInt8.ofNat (n + 192))
      ∨ (∃ n < 16, b = UInt8.ofNat (n + 224)) ∨ (∃ n < 5, b = UInt8.ofNat (n + 240))
      ∨ firstByte b = ([none], .between) := by
  have hb : UInt8.ofNat b.toNat = b := UInt8.ofNat_toNat
  have hbound := UInt8.toNat_lt b
  generalize b.toNat = n at hb hbound
  subst hb
  by_cases hone : n < 128
  · exact .inl ⟨n, hone, rfl⟩
  by_cases hill : n < 194 ∨ 245 ≤ n
  · exact .inr (.inr (.inr (.inr (firstByte_ill n hbound (by omega)))))
  by_cases htwo : n < 224
  · exact .inr (.inl ⟨n - 192, by omega, by omega, by rw [Nat.sub_add_cancel (by omega)]⟩)
  by_cases hthree : n < 240
  · exact .inr (.inr (.inl ⟨n - 224, by omega, by rw [Nat.sub_add_cancel (by omega)]⟩))
  · exact .inr (.inr (.inr (.inl ⟨n - 240, by omega, by rw [Nat.sub_add_cancel (by omega)]⟩)))

/-- If nothing is ill-formed, a byte that is owed is there and in its range. -/
theorem exists_within {range : UInt8 × UInt8} {later : List (UInt8 × UInt8)}
    (hlow : 128 ≤ range.1.toNat) (h : none ∉ pieces (.owing value range later) bytes) :
    ∃ n tail, Within range n ∧ bytes = UInt8.ofNat (n + 128) :: tail := by
  obtain ⟨low, high⟩ := range
  cases bytes with
  | nil => exact absurd (List.mem_singleton.mpr rfl) h
  | cons b tail =>
    by_cases hrange : (decide (low ≤ b) && decide (b ≤ high)) = true
    · simp only [Bool.and_eq_true, decide_eq_true_eq, UInt8.le_iff_toNat_le] at hrange
      have hback : b.toNat - 128 + 128 = b.toNat := Nat.sub_add_cancel (Nat.le_trans hlow hrange.1)
      refine ⟨b.toNat - 128, tail, ⟨?_, ?_⟩, ?_⟩
      · rw [hback]
        exact hrange.1
      · rw [hback]
        exact hrange.2
      · rw [hback, UInt8.ofNat_toNat]
    · rw [pieces, utf8Step, if_neg hrange] at h
      exact absurd (List.mem_append_left _ List.mem_cons_self) h

/-- A value that is no surrogate is the number of its character. -/
theorem toNat_val_ofNat {v : Nat} (h : v.isValidChar) : (Char.ofNat v).val.toNat = v := by
  rw [Char.ofNat, dif_pos h]
  rfl

/-- A character of one byte. -/
theorem utf8EncodeChar_one {n : Nat} (h : n < 128) :
    utf8EncodeChar (Char.ofNat n) = [UInt8.ofNat n] := by
  have hv : (Char.ofNat n).val.toNat = n := toNat_val_ofNat (.inl (by omega))
  rw [utf8EncodeChar, hv, if_pos (by omega)]

/-- A character of two bytes. -/
theorem utf8EncodeChar_two {a b : Nat} (ha : a < 32) (hmin : 2 ≤ a) (hb : b < 64) :
    utf8EncodeChar (Char.ofNat (a * 64 + b)) = [UInt8.ofNat (a + 192), UInt8.ofNat (b + 128)] := by
  have hv : (Char.ofNat (a * 64 + b)).val.toNat = a * 64 + b := toNat_val_ofNat (.inl (by omega))
  have hfirst : (a * 64 + b) / 64 % 32 = a := by omega
  have hsecond : (a * 64 + b) % 64 = b := by omega
  rw [utf8EncodeChar, hv, if_neg (by omega), if_pos (by omega), hfirst, hsecond]

/-- A character of three bytes.  The second one keeps to values without a shorter form and off
    surrogates. -/
theorem utf8EncodeChar_three {a b c : Nat} (ha : a < 16) (hb : b < 64) (hc : c < 64)
    (hmin : a = 0 → 160 ≤ b + 128) (hsurrogate : a = 13 → b + 128 ≤ 159) :
    utf8EncodeChar (Char.ofNat ((a * 64 + b) * 64 + c))
      = [UInt8.ofNat (a + 224), UInt8.ofNat (b + 128), UInt8.ofNat (c + 128)] := by
  have hv : (Char.ofNat ((a * 64 + b) * 64 + c)).val.toNat = (a * 64 + b) * 64 + c :=
    toNat_val_ofNat (by rw [Nat.isValidChar]; omega)
  have hfirst : ((a * 64 + b) * 64 + c) / 4096 % 16 = a := by omega
  have hsecond : ((a * 64 + b) * 64 + c) / 64 % 64 = b := by omega
  have hthird : ((a * 64 + b) * 64 + c) % 64 = c := by omega
  rw [utf8EncodeChar, hv, if_neg (by omega), if_neg (by omega), if_pos (by omega), hfirst,
    hsecond, hthird]

/-- A character of four bytes.  The second one keeps to values of characters without a shorter
    form. -/
theorem utf8EncodeChar_four {a b c d : Nat} (ha : a < 5) (hb : b < 64) (hc : c < 64) (hd : d < 64)
    (hmin : a = 0 → 144 ≤ b + 128) (hmax : a = 4 → b + 128 ≤ 143) :
    utf8EncodeChar (Char.ofNat (((a * 64 + b) * 64 + c) * 64 + d))
      = [UInt8.ofNat (a + 240), UInt8.ofNat (b + 128), UInt8.ofNat (c + 128),
        UInt8.ofNat (d + 128)] := by
  have hv : (Char.ofNat (((a * 64 + b) * 64 + c) * 64 + d)).val.toNat
      = ((a * 64 + b) * 64 + c) * 64 + d :=
    toNat_val_ofNat (by rw [Nat.isValidChar]; omega)
  have hfirst : (((a * 64 + b) * 64 + c) * 64 + d) / 262144 % 8 = a := by omega
  have hsecond : (((a * 64 + b) * 64 + c) * 64 + d) / 4096 % 64 = b := by omega
  have hthird : (((a * 64 + b) * 64 + c) * 64 + d) / 64 % 64 = c := by omega
  have hfourth : (((a * 64 + b) * 64 + c) * 64 + d) % 64 = d := by omega
  rw [utf8EncodeChar, hv, if_neg (by omega), if_neg (by omega), if_neg (by omega), hfirst,
    hsecond, hthird, hfourth]

/-- A byte that is owed in the whole range has six bits. -/
theorem exists_tail {later : List (UInt8 × UInt8)}
    (h : none ∉ pieces (.owing value tailRange later) bytes) :
    ∃ n < 64, ∃ tail, bytes = UInt8.ofNat (n + 128) :: tail := by
  obtain ⟨n, tail, hn, hbytes⟩ := exists_within (show 128 ≤ tailRange.1.toNat by decide) h
  have hhigh : n + 128 ≤ 191 := hn.high
  exact ⟨n, by omega, tail, hbytes⟩

/-- A byte that is owed behind a first byte has six bits, with a least value behind the lowest
    first byte and a greatest one behind a certain other. -/
theorem of_within_second {a special n : Nat} {low high : UInt8} (hspecial : special ≠ 0)
    (hhigh : high ≤ 0xBF) (h :
      Within (if a = 0 then (low, 0xBF) else if a = special then (0x80, high) else tailRange) n) :
    n < 64 ∧ (a = 0 → low.toNat ≤ n + 128) ∧ (a = special → n + 128 ≤ high.toNat) := by
  have hbound : high.toNat ≤ 191 := UInt8.le_iff_toNat_le.mp hhigh
  by_cases hzero : a = 0
  · rw [if_pos hzero] at h
    have hlast : n + 128 ≤ 191 := h.high
    exact ⟨by omega, fun _ => h.low, fun hother => absurd (hother.symm.trans hzero) hspecial⟩
  rw [if_neg hzero] at h
  by_cases hother : a = special
  · rw [if_pos hother] at h
    have hlast : n + 128 ≤ high.toNat := h.high
    exact ⟨by omega, fun hnil => absurd hnil hzero, fun _ => hlast⟩
  · rw [if_neg hother] at h
    have hlast : n + 128 ≤ 191 := h.high
    exact ⟨by omega, fun hnil => absurd hnil hzero, fun hsame => absurd hsame hother⟩

/-- Bytes of which none is ill-formed begin with those of a character. -/
theorem exists_utf8EncodeChar {b : UInt8} (h : none ∉ pieces .between (b :: rest)) :
    ∃ c tail, b :: rest = utf8EncodeChar c ++ tail := by
  rcases firstByte_cases b with
    ⟨n, hn, rfl⟩ | ⟨a, ha, hmin, rfl⟩ | ⟨a, ha, rfl⟩ | ⟨a, ha, rfl⟩ | hill
  · -- a character of one byte
    exact ⟨Char.ofNat n, rest, by rw [utf8EncodeChar_one hn, List.singleton_append]⟩
  · -- of two bytes
    rw [pieces_first (firstByte_two a ha hmin)] at h
    obtain ⟨n, hn, tail, rfl⟩ := exists_tail h
    exact ⟨Char.ofNat (a * 64 + n), tail, by rw [utf8EncodeChar_two ha hmin hn]; rfl⟩
  · -- of three bytes
    rw [pieces_first (firstByte_three a ha)] at h
    obtain ⟨n, tail, hwithin, rfl⟩ := exists_within (by split <;> (try split) <;> decide) h
    rw [pieces_more hwithin] at h
    obtain ⟨m, hm, tail, rfl⟩ := exists_tail h
    obtain ⟨hn, hmin, hsurrogate⟩ := of_within_second (by decide) (by decide) hwithin
    exact ⟨Char.ofNat ((a * 64 + n) * 64 + m), tail, by
      rw [utf8EncodeChar_three ha hn hm hmin hsurrogate]; rfl⟩
  · -- of four bytes
    rw [pieces_first (firstByte_four a ha)] at h
    obtain ⟨n, tail, hwithin, rfl⟩ := exists_within (by split <;> (try split) <;> decide) h
    rw [pieces_more hwithin] at h
    obtain ⟨m, hm, tail, rfl⟩ := exists_tail h
    rw [pieces_more (within_tailRange hm)] at h
    obtain ⟨k, hk, tail, rfl⟩ := exists_tail h
    obtain ⟨hn, hmin, hmax⟩ := of_within_second (by decide) (by decide) hwithin
    exact ⟨Char.ofNat (((a * 64 + n) * 64 + m) * 64 + k), tail, by
      rw [utf8EncodeChar_four ha hn hm hk hmin hmax]; rfl⟩
  · -- a byte that begins no character is a missing piece
    rw [pieces, utf8Step, hill] at h
    exact absurd (List.mem_append_left _ List.mem_cons_self) h

/-- Bytes of which none is ill-formed are those of a text. -/
theorem exists_encodeUtf8 {bytes : List UInt8} (h : none ∉ pieces .between bytes) :
    ∃ s, bytes = encodeUtf8 s := by
  -- a character is one byte or more, so that fewer bytes are left behind it
  match bytes with
  | [] => exact ⟨[], rfl⟩
  | b :: rest =>
    obtain ⟨c, tail, hbytes⟩ := exists_utf8EncodeChar h
    have hless : tail.length < (b :: rest).length := by
      rw [hbytes, List.length_append]
      have hpos : 0 < (utf8EncodeChar c).length :=
        List.length_pos_iff.mpr (String.utf8EncodeChar_ne_nil)
      omega
    rw [hbytes, pieces_utf8EncodeChar, List.mem_cons, not_or] at h
    obtain ⟨s, rfl⟩ := exists_encodeUtf8 h.2
    exact ⟨c :: s, hbytes⟩
termination_by bytes.length
decreasing_by exact hless

/-- Pieces without a gap are characters. -/
theorem eq_map_of_mapM_id {l : List (Option Char)} {s : List Char} (h : l.mapM id = some s) :
    l = s.map some := by
  induction l generalizing s with
  | nil =>
    obtain rfl := Option.some.inj h
    rfl
  | cons piece l ih =>
    rw [List.mapM_cons] at h
    obtain ⟨c, hpiece, h⟩ := Option.bind_eq_some_iff.mp h
    obtain ⟨t, ht, h⟩ := Option.bind_eq_some_iff.mp h
    obtain rfl := Option.some.inj h
    rw [ih ht, List.map_cons, ← hpiece]
    rfl

/-- The bytes that are read as a text are those of the text. -/
theorem decodeUtf8?_eq_some_iff {bytes : List UInt8} {s : List Char} :
    decodeUtf8? bytes = some s ↔ bytes = encodeUtf8 s := by
  constructor
  · intro h
    have hpieces : none ∉ pieces .between bytes := by
      rw [eq_map_of_mapM_id h]
      simp
    obtain ⟨t, rfl⟩ := exists_encodeUtf8 hpieces
    rw [Option.some.inj ((decodeUtf8?_encodeUtf8 t).symm.trans h)]
  · rintro rfl
    exact decodeUtf8?_encodeUtf8 s

end ProxyTrust.Text
