/-
  Base64 as the standard describes it.

  1. **Bits** — the bits of the bytes stand in a row, highest first.  The row is cut into groups
     of six, the last group is filled up with zeros, every group is the number of a symbol of the
     alphabet, and `=` fills up the last group of four symbols.  `standard` writes this down as it
     stands.

  2. **Sextets** — what a group of six bits is worth is told by the parts of the bytes that it
     holds, so that the groups are the sextets (`map_groupValue_groups`).  The induction takes
     three bytes at a time, as both sides do: only there do bytes and groups end at the same bit.
     The last one or two bytes are cases of their own, with the zeros that fill up their last
     group.

  3. **Both forms** — with equal values under an equal alphabet `encode` is `standard`
     (`encode_eq_standard`), so that what is proved about the one holds of the other.
-/
import ProxyTrust.Proofs.Base64.Row
import ProxyTrust.Proofs.Text.Cutting

namespace ProxyTrust.Base64

open Text (chunks chunks_append chunks_of_le)

/-! ## Bits -/

/-- The alphabet, in the order of the values. -/
def alphabet : List Char :=
  "ABCDEFGHIJKLMNOPQRSTUVWXYZabcdefghijklmnopqrstuvwxyz0123456789+/".toList

/-- The eight bits of a byte, highest first. -/
def bitsOf (b : UInt8) : List Bool := (List.range 8).reverse.map b.toNat.testBit

/-- The number that bits spell, highest first. -/
def ofBits (bits : List Bool) : Nat := bits.foldl (fun n bit => 2 * n + bit.toNat) 0

/-- The value of a group of six bits; one that is shorter is filled up with zeros. -/
def groupValue (bits : List Bool) : Nat := ofBits (bits ++ List.replicate (6 - bits.length) false)

/-- The bits of the bytes in groups of six. -/
def groups (data : List UInt8) : List (List Bool) := chunks 6 (by decide) (data.flatMap bitsOf)

/-- The padded base64 text of the bytes, by the rules of the standard. -/
def standard (data : List UInt8) : List Char :=
  (groups data).map (fun bits => alphabet.getD (groupValue bits) '=')
    ++ List.replicate (fill (groups data).length) '='

example : standard [0x41, 0x42] = ['Q', 'U', 'I', '='] := by decide +kernel

/-! ## Sextets -/

/-- A number goes on being read bit by bit: what was read so far counts once for each of the rows
    that are as long as the bits to come.  The number so far is a parameter, since the induction
    changes it. -/
theorem foldl_bits (n : Nat) (bits : List Bool) :
    bits.foldl (fun n bit => 2 * n + bit.toNat) n = n * Nat.pow 2 bits.length + ofBits bits := by
  induction bits generalizing n with
  | nil => exact (Nat.mul_one n).symm
  | cons bit bits ih =>
    have hpow : Nat.pow 2 (bits.length + 1) = Nat.pow 2 bits.length * 2 := rfl
    rw [ofBits, List.foldl_cons, List.foldl_cons, ih, ih (2 * 0 + bit.toNat),
      List.length_cons, hpow, Nat.add_mul, Nat.mul_zero, Nat.zero_add, Nat.mul_comm 2 n,
        Nat.mul_assoc, Nat.mul_comm 2,
      Nat.add_assoc]

/-- Bits in front count once for every number that the later ones can spell. -/
theorem ofBits_append (bits more : List Bool) :
    ofBits (bits ++ more) = ofBits bits * Nat.pow 2 more.length + ofBits more := by
  rw [ofBits, List.foldl_append]
  exact foldl_bits _ more

/-- The first bits of a byte spell what it is divided by the others, and the last bits the rest. -/
theorem ofBits_parts (b : UInt8) : ∀ k ∈ [2, 4, 6],
    ofBits ((bitsOf b).take k) = b.toNat / Nat.pow 2 (8 - k)
      ∧ ofBits ((bitsOf b).drop k) = b.toNat % Nat.pow 2 (8 - k) := by
  have hall : ∀ n < 256, ∀ k ∈ [2, 4, 6],
      ofBits (((List.range 8).reverse.map n.testBit).take k) = n / Nat.pow 2 (8 - k)
        ∧ ofBits (((List.range 8).reverse.map n.testBit).drop k) = n % Nat.pow 2 (8 - k) := by
    decide +kernel
  exact hall b.toNat b.toNat_lt

/-- Two parts of neighbouring bytes in one group. -/
theorem groupValue_append {front back : List Bool} (h : front.length + back.length = 6) :
    groupValue (front ++ back) = ofBits front * Nat.pow 2 back.length + ofBits back := by
  rw [groupValue, List.length_append, h, Nat.sub_self, List.replicate_zero, List.append_nil,
    ofBits_append]

/-- The groups of three bytes. -/
theorem groups_three (a b c : UInt8) (rest : List UInt8) :
    groups (a :: b :: c :: rest)
      = (bitsOf a).take 6 :: ((bitsOf a).drop 6 ++ (bitsOf b).take 4)
        :: ((bitsOf b).drop 4 ++ (bitsOf c).take 2) :: (bitsOf c).drop 2 :: groups rest := by
  have hbits : (a :: b :: c :: rest).flatMap bitsOf
      = (bitsOf a).take 6 ++ (((bitsOf a).drop 6 ++ (bitsOf b).take 4)
        ++ (((bitsOf b).drop 4 ++ (bitsOf c).take 2)
          ++ ((bitsOf c).drop 2 ++ rest.flatMap bitsOf))) := rfl
  rw [groups, hbits, chunks_append, chunks_append, chunks_append, chunks_append] <;> rfl

/-- Two bytes are sixteen bits: two whole groups and a last one of four. -/
theorem groups_two (a b : UInt8) :
    groups [a, b]
      = [(bitsOf a).take 6, (bitsOf a).drop 6 ++ (bitsOf b).take 4, (bitsOf b).drop 4] := by
  have hbits : [a, b].flatMap bitsOf
      = (bitsOf a).take 6 ++ (((bitsOf a).drop 6 ++ (bitsOf b).take 4) ++ (bitsOf b).drop 4) := rfl
  have hlast : chunks 6 (by decide) ((bitsOf b).drop 4) = [(bitsOf b).drop 4] :=
    chunks_of_le (List.cons_ne_nil _ _) (by decide : 4 ≤ 6)
  rw [groups, hbits, chunks_append, chunks_append, hlast] <;> rfl

/-- One byte is a whole group and a last one of two bits. -/
theorem groups_one (a : UInt8) : groups [a] = [(bitsOf a).take 6, (bitsOf a).drop 6] := by
  have hbits : [a].flatMap bitsOf = (bitsOf a).take 6 ++ (bitsOf a).drop 6 := rfl
  have hlast : chunks 6 (by decide) ((bitsOf a).drop 6) = [(bitsOf a).drop 6] :=
    chunks_of_le (List.cons_ne_nil _ _) (by decide : 2 ≤ 6)
  rw [groups, hbits, chunks_append, hlast]
  rfl

/-- The values of the groups are the sextets. -/
theorem map_groupValue_groups (data : List UInt8) :
    (groups data).map groupValue = sextets data := by
  -- the six bits at the beginning of a byte, and those at its end
  have hfirst (a : UInt8) : groupValue ((bitsOf a).take 6) = a.toNat / 4 :=
    (ofBits_parts a 6 (by decide)).1
  have hlast (c : UInt8) : groupValue ((bitsOf c).drop 2) = c.toNat % 64 :=
    (ofBits_parts c 2 (by decide)).2
  have hsecond (a b : UInt8) : groupValue ((bitsOf a).drop 6 ++ (bitsOf b).take 4)
      = a.toNat % 4 * 16 + b.toNat / 16 := by
    rw [groupValue_append rfl, (ofBits_parts a 6 (by decide)).2, (ofBits_parts b 4 (by decide)).1]
    rfl
  have hthird (b c : UInt8) : groupValue ((bitsOf b).drop 4 ++ (bitsOf c).take 2)
      = b.toNat % 16 * 4 + c.toNat / 64 := by
    rw [groupValue_append rfl, (ofBits_parts b 4 (by decide)).2, (ofBits_parts c 2 (by decide)).1]
    rfl
  induction data using sextets.induct with
  | case1 a b c rest ih =>
    rw [groups_three, List.map_cons, List.map_cons, List.map_cons, List.map_cons, ih, hfirst,
      hsecond, hthird, hlast, sextets]
  | case2 a b =>
    have hfilled : groupValue ((bitsOf b).drop 4) = b.toNat % 16 * 4 :=
      calc groupValue ((bitsOf b).drop 4)
        _ = ofBits ((bitsOf b).drop 4) * Nat.pow 2 2 + 0 := ofBits_append _ _
        _ = b.toNat % 16 * 4 := by rw [(ofBits_parts b 4 (by decide)).2]; rfl
    rw [groups_two, List.map_cons, List.map_cons, List.map_singleton, hfirst, hsecond,
      hfilled, sextets]
  | case3 a =>
    have hfilled : groupValue ((bitsOf a).drop 6) = a.toNat % 4 * 16 :=
      calc groupValue ((bitsOf a).drop 6)
        _ = ofBits ((bitsOf a).drop 6) * Nat.pow 2 4 + 0 := ofBits_append _ _
        _ = a.toNat % 4 * 16 := by rw [(ofBits_parts a 6 (by decide)).2]; rfl
    rw [groups_one, List.map_cons, List.map_singleton, hfirst, hfilled, sextets]
  | case4 => rw [groups, List.flatMap_nil, Text.chunks_nil, List.map_nil, sextets]

/-- The symbol of a value is the letter of the alphabet with that number. -/
theorem symbol_eq_alphabet : ∀ n < 64, symbol n = alphabet.getD n '=' := by decide +kernel

/-- What is written is what the standard says. -/
theorem encode_eq_standard (data : List UInt8) : encode data = standard data := by
  have hvalues := map_groupValue_groups data
  have hlength : (groups data).length = (sextets data).length := by rw [← hvalues, List.length_map]
  have hsymbols : (sextets data).map symbol = (sextets data).map (alphabet.getD · '=') :=
    List.map_congr_left fun v hv => symbol_eq_alphabet v (values_sextets data v hv)
  rw [encode_eq, standard, hlength, hsymbols, ← hvalues, List.map_map]
  rfl

end ProxyTrust.Base64
