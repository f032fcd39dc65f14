/-
  Numbers and the rows of bytes that spell them.

  1. **Rows of a fixed length** — writing and reading undo each other, for numbers that fit into
     the row and for every row.  Reading goes from the front with the number so far as a
     parameter, and writing from the end.  The two meet in `ofBigEndian_concat`, which says what
     one more byte at the end makes of the number.

  2. **Shortest rows** — `minimalBytes` spells its number, and gives back every row that does not
     begin with a zero.  The length of a shortest row is characterised by the rows that are long
     enough (`byteLength_le_iff`), and never by the logarithm that it is computed with.
-/
import ProxyTrust.Bytes

namespace ProxyTrust.Bytes

variable {n count : Nat} {b : UInt8} {bytes rest : List UInt8}

/-! ## Rows of a fixed length -/

/-- How many rows of a length there are. -/
def rowCount : Nat → Nat
  | 0 => 1
  | length + 1 => rowCount length * 256

theorem rowCount_pos (length : Nat) : 0 < rowCount length := by
  induction length with
  | zero => exact Nat.one_pos
  | succ length ih => exact Nat.mul_pos ih (by decide)

theorem length_bigEndian (count n : Nat) : (bigEndian count n).length = count := by
  induction count generalizing n with
  | zero => rfl
  | succ count ih => rw [bigEndian, List.length_append, ih, List.length_singleton]

theorem ofBigEndianFrom_concat (acc : Nat) (bytes : List UInt8) (b : UInt8) :
    ofBigEndianFrom acc (bytes ++ [b]) = ofBigEndianFrom acc bytes * 256 + b.toNat := by
  induction bytes generalizing acc with
  | nil => rfl
  | cons a bytes ih => exact ih _

theorem ofBigEndian_concat (bytes : List UInt8) (b : UInt8) :
    ofBigEndian (bytes ++ [b]) = ofBigEndian bytes * 256 + b.toNat :=
  ofBigEndianFrom_concat 0 bytes b

/-- The first byte counts once for every row as long as the rest. -/
theorem ofBigEndianFrom_eq (acc : Nat) (bytes : List UInt8) :
    ofBigEndianFrom acc bytes = acc * rowCount bytes.length + ofBigEndian bytes := by
  induction bytes generalizing acc with
  | nil => rw [ofBigEndianFrom, List.length_nil, rowCount, Nat.mul_one]; rfl
  | cons b bytes ih =>
    rw [ofBigEndian, ofBigEndianFrom, ofBigEndianFrom, ih, ih (0 * 256 + b.toNat),
      List.length_cons, rowCount, Nat.zero_mul, Nat.zero_add, Nat.add_mul]
    rw [Nat.mul_assoc, Nat.mul_comm 256, Nat.add_assoc]

theorem ofBigEndian_cons (b : UInt8) (bytes : List UInt8) :
    ofBigEndian (b :: bytes) = b.toNat * rowCount bytes.length + ofBigEndian bytes := by
  show ofBigEndianFrom (0 * 256 + b.toNat) bytes = _
  rw [ofBigEndianFrom_eq, Nat.zero_mul, Nat.zero_add]

/-- A row spells a number that fits into it. -/
theorem ofBigEndian_lt (bytes : List UInt8) : ofBigEndian bytes < rowCount bytes.length := by
  induction bytes with
  | nil => exact Nat.one_pos
  | cons b bytes ih =>
    have hb : b.toNat < 256 := b.toNat_lt
    have hfirst : (b.toNat + 1) * rowCount bytes.length ≤ 256 * rowCount bytes.length :=
      Nat.mul_le_mul_right _ hb
    rw [ofBigEndian_cons, List.length_cons, rowCount, Nat.mul_comm _ 256]
    rw [Nat.add_mul, Nat.one_mul] at hfirst
    omega

/-- A number that fits into a row is read back from it. -/
theorem ofBigEndian_bigEndian (h : n < rowCount count) : ofBigEndian (bigEndian count n) = n := by
  induction count generalizing n with
  | zero =>
    rw [rowCount] at h
    obtain rfl : n = 0 := by omega
    rfl
  | succ count ih =>
    rw [rowCount] at h
    have hhigh : n / 256 < rowCount count := Nat.div_lt_of_lt_mul (by rw [Nat.mul_comm]; exact h)
    have hlow : (UInt8.ofNat (n % 256)).toNat = n % 256 := by
      rw [UInt8.toNat_ofNat', Nat.mod_eq_of_lt (Nat.mod_lt n (by decide))]
    rw [bigEndian, ofBigEndian_concat, ih hhigh, hlow, Nat.mul_comm]
    exact Nat.div_add_mod n 256

/-- A row is written again as it was, with its own length. -/
theorem bigEndian_ofBigEndian (bytes : List UInt8) :
    bigEndian bytes.length (ofBigEndian bytes) = bytes := by
  -- rows are written from their end, so that the induction is on the row read backwards
  have hreverse (back : List UInt8) :
      bigEndian back.length (ofBigEndian back.reverse) = back.reverse := by
    induction back with
    | nil => rfl
    | cons b back ih =>
      have hb : b.toNat < 256 := b.toNat_lt
      have hhigh :
          (ofBigEndian back.reverse * 256 + b.toNat) / 256 = ofBigEndian back.reverse := by omega
      have hlow : (ofBigEndian back.reverse * 256 + b.toNat) % 256 = b.toNat := by omega
      rw [List.reverse_cons, ofBigEndian_concat, List.length_cons, bigEndian, hhigh, hlow, ih,
        UInt8.ofNat_toNat]
  have h := hreverse bytes.reverse
  rwa [List.length_reverse, List.reverse_reverse] at h

/-! ## Shortest rows -/

theorem length_minimalBytes (n : Nat) : (minimalBytes n).length = byteLength n :=
  length_bigEndian _ n

/-- A row is eight bits for each byte. -/
theorem rowCount_eq (length : Nat) : rowCount length = Nat.pow 2 (8 * length) := by
  induction length with
  | zero => rfl
  | succ length ih =>
    calc
      rowCount (length + 1) = Nat.pow 2 (8 * length) * 256 := congrArg (· * 256) ih
      _ = Nat.pow 2 (8 * length + 8) := (Nat.pow_add 2 (8 * length) 8).symm

/-- The length of the shortest row, by the rows that are long enough for the number. -/
theorem byteLength_le_iff : byteLength n ≤ count ↔ n < rowCount count := by
  rw [byteLength]
  split
  · next hzero =>
    rw [hzero]
    exact iff_of_true (Nat.zero_le _) (rowCount_pos count)
  · next hne =>
    have hbits : n.log2 < 8 * count ↔ n < rowCount count := by
      rw [rowCount_eq]
      exact Nat.log2_lt hne
    rw [← hbits]
    omega

theorem ofBigEndian_minimalBytes (n : Nat) : ofBigEndian (minimalBytes n) = n :=
  ofBigEndian_bigEndian (byteLength_le_iff.mp (Nat.le_refl _))

/-- A row that does not begin with a zero is the shortest one for its number. -/
theorem minimalBytes_ofBigEndian (hb : b ≠ 0) :
    minimalBytes (ofBigEndian (b :: rest)) = b :: rest := by
  have hpos : 0 < b.toNat := by
    rcases Nat.eq_zero_or_pos b.toNat with hzero | hpos
    · exact absurd (UInt8.toNat_inj.mp hzero) hb
    · exact hpos
  -- the first byte is not zero, so that no shorter row can hold the number
  have hlower : rowCount rest.length ≤ ofBigEndian (b :: rest) := by
    rw [ofBigEndian_cons]
    exact Nat.le_trans (Nat.le_mul_of_pos_left _ hpos) (Nat.le_add_right _ _)
  have hlength : byteLength (ofBigEndian (b :: rest)) = (b :: rest).length := by
    have hmost : byteLength (ofBigEndian (b :: rest)) ≤ (b :: rest).length :=
      byteLength_le_iff.mpr (ofBigEndian_lt _)
    have hmore : ¬ byteLength (ofBigEndian (b :: rest)) ≤ rest.length := fun hle =>
      absurd (byteLength_le_iff.mp hle) (Nat.not_lt.mpr hlower)
    rw [List.length_cons] at hmost ⊢
    omega
  rw [minimalBytes, hlength, bigEndian_ofBigEndian]

end ProxyTrust.Bytes
