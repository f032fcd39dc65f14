/-
  The UTF-8 bytes of a text.

  Two texts with the same bytes are the same text.  A character below 128 is its own only byte,
  and no byte below 128 comes from any other character, so that what is said about such characters
  of a text can be read off its bytes.
-/
import ProxyTrust.Text.Utf8

namespace ProxyTrust.Text

theorem encodeUtf8_append (s t : List Char) :
    encodeUtf8 (s ++ t) = encodeUtf8 s ++ encodeUtf8 t := by
  rw [encodeUtf8, encodeUtf8, encodeUtf8, List.flatMap_append]

theorem encodeUtf8_flatMap {α : Type} (l : List α) (f : α → List Char) :
    encodeUtf8 (l.flatMap f) = l.flatMap fun a => encodeUtf8 (f a) := by
  rw [encodeUtf8, List.flatMap_assoc]
  rfl

/-- No two texts have the same bytes. -/
theorem encodeUtf8_injective {s t : List Char} (h : encodeUtf8 s = encodeUtf8 t) : s = t := by
  have hbytes : s.utf8Encode = t.utf8Encode := congrArg List.toByteArray h
  have hdecoded : some s.toArray = some t.toArray := by
    rw [← List.utf8Decode?_utf8Encode, hbytes, List.utf8Decode?_utf8Encode]
  have harray : s.toArray = t.toArray := Option.some.inj hdecoded
  simpa using congrArg Array.toList harray

/-- The bytes of a character: itself, or bytes from 128 on. -/
theorem utf8EncodeChar_cases (c : Char) :
    (c.toNat < 128 ∧ String.utf8EncodeChar c = [UInt8.ofNat c.toNat])
      ∨ (128 ≤ c.toNat ∧ ∀ b ∈ String.utf8EncodeChar c, 128 ≤ b.toNat) := by
  have hvalue : c.toNat = c.val.toNat := rfl
  by_cases hsmall : c.val.toNat ≤ 127
  · refine .inl ⟨by omega, ?_⟩
    rw [String.utf8EncodeChar, if_pos hsmall]
    rfl
  · refine .inr ⟨by omega, ?_⟩
    intro b hb
    rw [String.utf8EncodeChar, if_neg hsmall] at hb
    -- every byte of a longer form is a residue with one of the high marks added to it
    have hmarked (n mark : Nat) (hlow : 128 ≤ mark) (hhigh : n + mark < 256) :
        128 ≤ (UInt8.ofNat (n + mark)).toNat := by
      rw [UInt8.toNat_ofNat', Nat.mod_eq_of_lt hhigh]
      omega
    split at hb
    · simp only [List.mem_cons, List.not_mem_nil, or_false] at hb
      rcases hb with rfl | rfl <;> exact hmarked _ _ (by omega) (by omega)
    · split at hb
      · simp only [List.mem_cons, List.not_mem_nil, or_false] at hb
        rcases hb with rfl | rfl | rfl <;> exact hmarked _ _ (by omega) (by omega)
      · simp only [List.mem_cons, List.not_mem_nil, or_false] at hb
        rcases hb with rfl | rfl | rfl | rfl <;> exact hmarked _ _ (by omega) (by omega)

/-- Characters below 128 are their own bytes. -/
theorem encodeUtf8_ascii {s : List Char} (h : ∀ c ∈ s, c.toNat < 128) :
    encodeUtf8 s = s.map fun c => UInt8.ofNat c.toNat := by
  induction s with
  | nil => rfl
  | cons c s ih =>
    obtain ⟨hc, hs⟩ := List.forall_mem_cons.mp h
    have hbyte : String.utf8EncodeChar c = [UInt8.ofNat c.toNat] := by
      rcases utf8EncodeChar_cases c with ⟨_, hbyte⟩ | ⟨hlarge, _⟩
      · exact hbyte
      · omega
    have hcons : encodeUtf8 (c :: s) = String.utf8EncodeChar c ++ encodeUtf8 s := rfl
    rw [hcons, hbyte, ih hs]
    rfl

/-- A byte below 128 among the bytes of a text is that of a character of the text. -/
theorem mem_of_mem_encodeUtf8 {s : List Char} {c : Char} (hc : c.toNat < 128)
    (h : UInt8.ofNat c.toNat ∈ encodeUtf8 s) : c ∈ s := by
  obtain ⟨d, hd, hmem⟩ := List.mem_flatMap.mp h
  have hvalue : (UInt8.ofNat c.toNat).toNat = c.toNat := by
    rw [UInt8.toNat_ofNat', Nat.mod_eq_of_lt (by omega)]
  rcases utf8EncodeChar_cases d with ⟨hsmall, hbyte⟩ | ⟨_, hlarge⟩
  · -- the byte is that of a character below 128, which is then the same one
    rw [hbyte, List.mem_singleton] at hmem
    have hdc : c.toNat = d.toNat := by
      have hnat := congrArg UInt8.toNat hmem
      rw [hvalue, UInt8.toNat_ofNat', Nat.mod_eq_of_lt (by omega)] at hnat
      exact hnat
    obtain rfl : c = d := by
      apply Char.ext
      exact UInt32.toNat_inj.mp hdc
    exact hd
  · -- the bytes of any other character are all greater
    have hbyte := hlarge _ hmem
    rw [hvalue] at hbyte
    omega

end ProxyTrust.Text
