/-
  The form of every fingerprint there is.

  1. **Digits** — `hexUpper` writes two digits for each byte, and no two rows of bytes are written
     alike (`hexUpper_injective`).  Hence two fingerprints are the same exactly if the digests
     are.

  2. **The two ways** — a fingerprint is computed from a certificate or read from a text.  The
     digest has twenty bytes of two digits each, and reading keeps digits alone and counts them.

  3. **The form** — so both ways give forty upper-case hexadecimal digits (`Made.wellFormed`), and
     no other character of a text gets into a fingerprint.  This is what makes it safe to put one
     into a command.
-/
import ProxyTrust.Fingerprint
import ProxyTrust.Proofs.Bytes

namespace ProxyTrust

/-! ## Digits -/

namespace Bytes

/-- An upper-case hexadecimal digit. -/
def isUpperHex (c : Char) : Bool := ('0' ≤ c && c ≤ '9') || ('A' ≤ c && c ≤ 'F')

theorem isUpperHex_hexDigit : ∀ n < 16, isUpperHex (hexDigit n) = true := by decide

/-- Every byte is two digits. -/
theorem length_hexUpper (bytes : List UInt8) : (hexUpper bytes).length = 2 * bytes.length := by
  induction bytes with
  | nil => rfl
  | cons b bytes ih =>
    have hcons : hexUpper (b :: bytes)
        = hexDigit (b.toNat / 16) :: hexDigit (b.toNat % 16) :: hexUpper bytes :=
      rfl
    rw [hcons, List.length_cons, List.length_cons, ih, List.length_cons]
    omega

/-- What is written for bytes is upper-case digits. -/
theorem isUpperHex_of_mem_hexUpper {bytes : List UInt8} {c : Char} (h : c ∈ hexUpper bytes) :
    isUpperHex c = true := by
  obtain ⟨b, -, hc⟩ := List.mem_flatMap.mp h
  have hb : b.toNat < 256 := b.toNat_lt
  simp only [List.mem_cons, List.not_mem_nil, or_false] at hc
  rcases hc with rfl | rfl
  · exact isUpperHex_hexDigit _ (by omega)
  · exact isUpperHex_hexDigit _ (by omega)

theorem hexDigit_inj : ∀ m < 16, ∀ n < 16, hexDigit m = hexDigit n → m = n := by decide

/-- Different rows of bytes have different digits. -/
theorem hexUpper_injective : Function.Injective hexUpper := by
  intro bytes others h
  induction bytes generalizing others with
  | nil =>
    cases others with
    | nil => rfl
    | cons c others => nomatch h
  | cons b bytes ih =>
    cases others with
    | nil => nomatch h
    | cons c others =>
      -- a byte is told by its two digits
      have hb : b.toNat < 256 := b.toNat_lt
      have hc : c.toNat < 256 := c.toNat_lt
      obtain ⟨hhigh, hlater⟩ := List.cons.inj h
      obtain ⟨hlow, hrest⟩ := List.cons.inj hlater
      have hhigh := hexDigit_inj _ (by omega) _ (by omega) hhigh
      have hlow := hexDigit_inj _ (by omega) _ (by omega) hlow
      obtain rfl : b = c := UInt8.toNat_inj.mp (by omega)
      rw [ih hrest]

end Bytes

namespace Fingerprint

open Bytes (isUpperHex isHexDigit)

/-- No digit of either case comes after `f`. -/
theorem toNat_lt_of_isHexDigit {c : Char} (h : isHexDigit c = true) : c.toNat < 103 := by
  simp only [isHexDigit, Bool.or_eq_true, Bool.and_eq_true, decide_eq_true_eq, Char.le_def,
    UInt32.le_iff_toNat_le] at h
  have hnine : ('9' : Char).val.toNat = 57 := rfl
  have hf : ('f' : Char).val.toNat = 102 := rfl
  have hF : ('F' : Char).val.toNat = 70 := rfl
  have hvalue : c.toNat = c.val.toNat := rfl
  omega

/-- A digit of either case in upper case. -/
theorem isUpperHex_upperAscii {c : Char} (h : isHexDigit c = true) :
    isUpperHex (upperAscii c) = true := by
  have hdigits : ∀ n < 103, isHexDigit (Char.ofNat n) = true →
      isUpperHex (upperAscii (Char.ofNat n)) = true := by
    decide
  have hc := hdigits c.toNat (toNat_lt_of_isHexDigit h)
  rw [Char.ofNat_toNat] at hc
  exact hc h

/-! ## Fingerprints -/

/-- Forty upper-case hexadecimal digits. -/
structure WellFormed (f : Fingerprint) : Prop where
  length : f.text.toList.length = digitCount
  digits : ∀ c ∈ f.text.toList, isUpperHex c = true

theorem length_sha1 (message : List UInt8) : (Digest.sha1 message).length = 20 := by
  simp [Digest.sha1, Digest.Sha1State.bytes, Digest.wordBytes, Bytes.length_bigEndian]

/-- The fingerprint of a certificate is forty upper-case digits. -/
theorem wellFormed_ofBytes (certificate : List UInt8) : (ofBytes certificate).WellFormed := by
  constructor
  · rw [ofBytes, String.toList_ofList, Bytes.length_hexUpper, length_sha1]
    rfl
  · intro c hc
    rw [ofBytes, String.toList_ofList] at hc
    exact Bytes.isUpperHex_of_mem_hexUpper hc

/-- Two fingerprints are one exactly if the digests are. -/
theorem ofBytes_eq_iff {certificate other : List UInt8} :
    ofBytes certificate = ofBytes other ↔ Digest.sha1 certificate = Digest.sha1 other := by
  constructor
  · intro h
    exact Bytes.hexUpper_injective (String.ofList_injective (congrArg text h))
  · intro h
    rw [ofBytes, ofBytes, h]

/-- A text is read exactly if it holds forty digits, as these in upper case. -/
theorem ofText?_eq_some_iff {text : String} {f : Fingerprint} :
    ofText? text = some f ↔ (normalChars text.toList).length = digitCount
      ∧ f.text = normalize text := by
  rw [ofText?]
  split
  · next hlength =>
    constructor
    · intro h
      exact ⟨hlength, congrArg Fingerprint.text (Option.some.inj h).symm⟩
    · rintro ⟨-, htext⟩
      obtain ⟨text⟩ := f
      exact congrArg some (congrArg Fingerprint.mk htext.symm)
  · next hlength => exact iff_of_false (fun h => nomatch h) fun h => hlength h.1

theorem wellFormed_of_ofText? {text : String} {f : Fingerprint} (h : ofText? text = some f) :
    f.WellFormed := by
  obtain ⟨hlength, htext⟩ := ofText?_eq_some_iff.mp h
  constructor
  · rw [htext, normalize, String.toList_ofList, hlength]
  · intro c hc
    rw [htext, normalize, String.toList_ofList] at hc
    obtain ⟨d, hd, rfl⟩ := List.mem_map.mp hc
    exact isUpperHex_upperAscii (List.mem_filter.mp hd).2

/-- The fingerprint is computed from a certificate or read from a text. -/
inductive Made (f : Fingerprint) : Prop
  | ofBytes (certificate : List UInt8) (h : ofBytes certificate = f)
  | ofText? (text : String) (h : ofText? text = some f)

/-- However a fingerprint was made, it is forty upper-case digits. -/
theorem Made.wellFormed {f : Fingerprint} (h : f.Made) : f.WellFormed := by
  cases h with
  | ofBytes certificate h => exact h ▸ wellFormed_ofBytes certificate
  | ofText? text h => exact wellFormed_of_ofText? h

end Fingerprint

end ProxyTrust
