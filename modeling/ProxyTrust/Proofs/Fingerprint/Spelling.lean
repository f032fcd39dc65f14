/-
  The text of a fingerprint, and the texts that spell it.

  1. **Digits** — the characters that are read are the sixteen digits in either case, and no
     others, whatever their numbers.  The digits of bytes spell the number that the bytes spell.

  2. **Spellings** — `Respelled digits text` says that the text is the digits, each in either
     case, with any characters that are no digits put in anywhere.  It mentions neither filtering
     nor upper case, and every text is a spelling of exactly one row of upper-case digits, the one
     that `normalChars` gives (`respelled_iff`): one direction by induction on the spelling, the
     other one by induction on the text.

  3. **Fingerprints** — hence a text is read exactly if its digits are forty, and a fingerprint is
     read from its spellings and from nothing else (`read_from_spellings`).
-/
import ProxyTrust.Proofs.Fingerprint

namespace ProxyTrust.Fingerprint

open Bytes (isUpperHex isHexDigit hexDigit hexUpper ofBigEndian ofBigEndianFrom)

variable {digits text : List Char} {c : Char}

/-! ## Digits -/

/-- The digits of a fingerprint, in the order of their values. -/
def upperDigits : List Char := "0123456789ABCDEF".toList

/-- The digits of a fingerprint and the lower-case letters that may stand for them. -/
def anyDigits : List Char := "0123456789ABCDEFabcdef".toList

/-- The number that digits spell, the first one counting most. -/
def hexNumber (digits : List Char) : Nat := digits.foldl (fun n d => 16 * n + upperDigits.idxOf d) 0

/-- What is decided over a list of characters, and not over all the characters there are. -/
theorem forall_of_all {p : Char → Prop} [DecidablePred p] {chars : List Char}
    (h : chars.all (fun c => decide (p c)) = true) : ∀ c ∈ chars, p c :=
  fun c hc => of_decide_eq_true (List.all_eq_true.mp h c hc)

/-- The characters that are read are the digits in either case. -/
theorem isHexDigit_iff (c : Char) : isHexDigit c = true ↔ c ∈ anyDigits := by
  have hsmall : ∀ n < 103, isHexDigit (Char.ofNat n) = true
      ↔ Char.ofNat n ∈ anyDigits := by decide +kernel
  have hbound : ∀ d ∈ anyDigits, d.toNat < 103 := forall_of_all (by decide +kernel)
  by_cases hc : c.toNat < 103
  · have h := hsmall c.toNat hc
    rwa [Char.ofNat_toNat] at h
  · exact iff_of_false (fun h => hc (toNat_lt_of_isHexDigit h)) fun h => hc (hbound c h)

/-- The digits that are kept are those of the two rows of sixteen. -/
theorem filter_isHexDigit (text : List Char) :
    text.filter isHexDigit = text.filter (· ∈ anyDigits) := by
  refine List.filter_congr fun c _ => ?_
  rw [Bool.eq_iff_iff, isHexDigit_iff, decide_eq_true_iff]

theorem mem_upperDigits_of_isUpperHex (h : isUpperHex c = true) : c ∈ upperDigits := by
  have hboth : isHexDigit c = true := by
    simp only [isUpperHex, isHexDigit, Bool.or_eq_true] at h ⊢
    exact h.imp_left .inl
  have hall : ∀ d ∈ anyDigits, isUpperHex d = true → d ∈ upperDigits :=
    forall_of_all (by decide +kernel)
  exact hall c ((isHexDigit_iff c).mp hboth) h

/-- The digits of bytes spell the number that the bytes spell. -/
theorem hexNumber_hexUpper (bytes : List UInt8) :
    hexNumber (hexUpper bytes) = ofBigEndian bytes := by
  have hvalue : ∀ n < 16, upperDigits.idxOf (hexDigit n) = n := by decide +kernel
  have hfrom (acc : Nat) : (hexUpper bytes).foldl (fun n d => 16 * n + upperDigits.idxOf d) acc
      = ofBigEndianFrom acc bytes := by
    induction bytes generalizing acc with
    | nil => rfl
    | cons b bytes ih =>
      have hb : b.toNat < 256 := b.toNat_lt
      have hcons : hexUpper (b :: bytes)
          = hexDigit (b.toNat / 16) :: hexDigit (b.toNat % 16) :: hexUpper bytes := rfl
      have hbyte : 16 * (16 * acc + b.toNat / 16) + b.toNat % 16 = acc * 256 + b.toNat := by omega
      rw [hcons, List.foldl_cons, List.foldl_cons, hvalue _ (by omega), hvalue _ (by omega),
        ih, hbyte, ofBigEndianFrom]
  exact hfrom 0

/-! ## Spellings -/

/-- The text is the digits, each in either case, with other characters put in anywhere. -/
inductive Respelled : (digits text : List Char) → Prop
  | nil : Respelled [] []
  /-- A character that is no digit is put in. -/
  | insert {c : Char} (hc : c ∉ anyDigits) {digits text : List Char} (h : Respelled digits text) :
      Respelled digits (c :: text)
  | same (d : Char) {digits text : List Char} (h : Respelled digits text) :
    Respelled (d :: digits) (d :: text)
  | lower (d : Char) {digits text : List Char} (h : Respelled digits text) :
      Respelled (d :: digits) (d.toLower :: text)

/-- A character that is no digit is dropped. -/
theorem normalChars_insert (hc : c ∉ anyDigits) (text : List Char) :
    normalChars (c :: text) = normalChars text := by
  rw [normalChars, List.filter_cons_of_neg fun h => hc ((isHexDigit_iff c).mp h), ← normalChars]

theorem normalChars_digit (hc : c ∈ anyDigits) (text : List Char) :
    normalChars (c :: text) = upperAscii c :: normalChars text := by
  rw [normalChars, List.filter_cons_of_pos ((isHexDigit_iff c).mpr hc), List.map_cons,
    ← normalChars]

/-- Every text is a spelling of its digits. -/
theorem respelled_normalChars (text : List Char) : Respelled (normalChars text) text := by
  have hcase : ∀ d ∈ anyDigits, upperAscii d = d ∨ (upperAscii d).toLower = d :=
    forall_of_all (by decide +kernel)
  induction text with
  | nil => exact .nil
  | cons c text ih =>
    by_cases hc : c ∈ anyDigits
    · rw [normalChars_digit hc]
      rcases hcase c hc with hsame | hlower
      · rw [hsame]
        exact .same c ih
      · have hspelled := Respelled.lower (upperAscii c) ih
        rwa [hlower] at hspelled
    · rw [normalChars_insert hc]
      exact .insert hc ih

/-- A text spells its digits and no others. -/
theorem respelled_iff (hdigits : ∀ d ∈ digits, d ∈ upperDigits) :
    Respelled digits text ↔ normalChars text = digits := by
  have hupper : ∀ d ∈ upperDigits, (d ∈ anyDigits ∧ upperAscii d = d)
      ∧ d.toLower ∈ anyDigits ∧ upperAscii d.toLower = d := forall_of_all (by decide +kernel)
  constructor
  · intro h
    induction h with
    | nil => rfl
    | insert hc _ ih => rw [normalChars_insert hc, ih hdigits]
    | same d _ ih =>
      obtain ⟨hd, hlater⟩ := List.forall_mem_cons.mp hdigits
      obtain ⟨hmem, heq⟩ := (hupper d hd).1
      rw [normalChars_digit hmem, heq, ih hlater]
    | lower d _ ih =>
      obtain ⟨hd, hlater⟩ := List.forall_mem_cons.mp hdigits
      obtain ⟨hmem, heq⟩ := (hupper d hd).2
      rw [normalChars_digit hmem, heq, ih hlater]
  · -- a text is a spelling of its own digits
    rintro rfl
    exact respelled_normalChars text

theorem respelled_self (digits : List Char) : Respelled digits digits := by
  induction digits with
  | nil => exact .nil
  | cons d digits ih => exact .same d ih

theorem mem_upperDigits_of_mem_normalChars (h : c ∈ normalChars text) : c ∈ upperDigits := by
  obtain ⟨d, hd, rfl⟩ := List.mem_map.mp h
  exact mem_upperDigits_of_isUpperHex (isUpperHex_upperAscii (List.mem_filter.mp hd).2)

/-- Digits that were taken from a text are taken as they are. -/
theorem normalChars_normalChars (text : List Char) :
    normalChars (normalChars text) = normalChars text :=
  (respelled_iff fun _ => mem_upperDigits_of_mem_normalChars).mp (respelled_self _)

/-! ## Fingerprints -/

theorem length_normalChars (text : List Char) :
    (normalChars text).length = text.countP (· ∈ anyDigits) := by
  rw [normalChars, List.length_map, filter_isHexDigit, List.countP_eq_length_filter]

/-- The digits of a text as they are in upper case. -/
theorem normalChars_eq (text : List Char) :
    normalChars text = (text.filter (· ∈ anyDigits)).map Char.toUpper := by
  have hupper : ∀ d ∈ anyDigits, upperAscii d = d.toUpper := forall_of_all (by decide +kernel)
  rw [normalChars, filter_isHexDigit]
  exact List.map_congr_left fun d hd => hupper d (by simpa using (List.mem_filter.mp hd).2)

theorem WellFormed.mem_upperDigits {f : Fingerprint} (h : f.WellFormed) :
    ∀ d ∈ f.text.toList, d ∈ upperDigits :=
  fun d hd => mem_upperDigits_of_isUpperHex (h.digits d hd)

/-- A fingerprint is read from the texts that spell it. -/
theorem WellFormed.ofText?_iff {f : Fingerprint} (h : f.WellFormed) (text : String) :
    ofText? text = some f ↔ Respelled f.text.toList text.toList := by
  rw [respelled_iff h.mem_upperDigits, ofText?_eq_some_iff, normalize]
  constructor
  · rintro ⟨-, htext⟩
    rw [htext, String.toList_ofList]
  · intro hdigits
    rw [hdigits]
    exact ⟨h.length, String.ofList_toList.symm⟩

/-- The text of a fingerprint is the forty upper-case digits of the digest, so that fingerprints
    are one exactly if the digests are.  A text is read exactly if forty of its characters are
    digits of either case, as these digits in upper case.  Every fingerprint there is, computed or
    read, is read from the spellings of its text and from nothing else; so its own text is read as
    itself, as what was normalised is normalised. -/
theorem read_from_spellings :
    (∀ data, (Digest.sha1 data).length = 20
      ∧ (ofBytes data).text.toList.length = 40
      ∧ (∀ d ∈ (ofBytes data).text.toList, d ∈ upperDigits)
      ∧ hexNumber (ofBytes data).text.toList = ofBigEndian (Digest.sha1 data))
    ∧ (∀ data other, ofBytes data = ofBytes other ↔ Digest.sha1 data = Digest.sha1 other)
    ∧ (∀ text, (∃ f, ofText? text = some f) ↔ text.toList.countP (· ∈ anyDigits) = 40)
    ∧ (∀ text f, ofText? text = some f →
      f.text.toList = (text.toList.filter (· ∈ anyDigits)).map Char.toUpper)
    ∧ (∀ data text, ofText? text = some (ofBytes data)
      ↔ Respelled (ofBytes data).text.toList text.toList)
    ∧ (∀ f : Fingerprint, f.Made →
      (∀ text, ofText? text = some f ↔ Respelled f.text.toList text.toList)
      ∧ ofText? f.text = some f)
    ∧ (∀ text, normalize (normalize text) = normalize text) := by
  refine ⟨fun data => ?_, fun data other => ofBytes_eq_iff, fun text => ?_, fun text f h => ?_,
    fun data text => (wellFormed_ofBytes data).ofText?_iff text, fun f hmade => ?_, fun text => ?_⟩
  · have hformed := wellFormed_ofBytes data
    refine ⟨length_sha1 data, hformed.length, hformed.mem_upperDigits, ?_⟩
    rw [ofBytes, String.toList_ofList, hexNumber_hexUpper]
  · rw [← length_normalChars]
    constructor
    · rintro ⟨f, hf⟩
      exact (ofText?_eq_some_iff.mp hf).1
    · intro hlength
      exact ⟨⟨normalize text⟩, ofText?_eq_some_iff.mpr ⟨hlength, rfl⟩⟩
  · rw [(ofText?_eq_some_iff.mp h).2, normalize, String.toList_ofList, normalChars_eq]
  · have hformed := hmade.wellFormed
    exact ⟨hformed.ofText?_iff, (hformed.ofText?_iff f.text).mpr (respelled_self _)⟩
  · rw [normalize, normalize, String.toList_ofList, normalChars_normalChars]

/-- The fingerprint of no bytes at all. -/
def emptyPrint : Fingerprint := ⟨"DA39A3EE5E6B4B0D3255BFEF95601890AFD80709"⟩

/-- The same fingerprint, as it may be pasted from elsewhere. -/
def pastedText : String := "sig ↦ da39 a3ee 5e6b 4b0d 3255:bfef:9560:1890:afD8:0709."

/-- The pasted text is read as the fingerprint that was computed, in upper case, and so is that
    one's own text. -/
theorem read_from_spellings_pasted :
    emptyPrint.Made ∧ Respelled emptyPrint.text.toList pastedText.toList
    ∧ ofText? pastedText = some emptyPrint
    ∧ emptyPrint.text.toList = (pastedText.toList.filter (· ∈ anyDigits)).map Char.toUpper
    ∧ ofText? emptyPrint.text = some emptyPrint := by
  have hmade : emptyPrint.Made := .ofBytes [] (by decide +kernel)
  have hspelled : Respelled emptyPrint.text.toList pastedText.toList := by
    have hdigits : normalChars pastedText.toList = emptyPrint.text.toList := by decide +kernel
    rw [← hdigits]
    exact respelled_normalChars _
  obtain ⟨-, -, -, hupper, -, hread, -⟩ := read_from_spellings
  have hpasted := ((hread emptyPrint hmade).1 pastedText).mpr hspelled
  exact ⟨hmade, hspelled, hpasted, hupper pastedText emptyPrint hpasted, (hread emptyPrint hmade).2⟩

end ProxyTrust.Fingerprint
