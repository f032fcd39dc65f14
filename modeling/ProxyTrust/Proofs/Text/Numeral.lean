/-
  Numbers that are written in decimal and read back.

  1. **Reading** — `Spells row n` says, without reading, that a row is an optional plus sign and
     one or more ASCII digits with the value `n`; a row is read as a number exactly if it spells
     one that the bound lets through (`readUnsigned?_eq_some_iff`).  Leading zeros change nothing,
     so that many rows spell one number.

  2. **Writing** — a number is written as a row of digits that spells it again, and hence read as
     itself.  The digits are those of `Nat.toDigits`, whose lemmas say what each digit is and that
     the value comes back.

  3. **A fixed width** — the digits of a number are those of its tenth and one more
     (`padded_succ`), which gives the forms of two and four digits that dates are written in.
-/
import ProxyTrust.Text.Blank
import ProxyTrust.Text.Numeral

namespace ProxyTrust.Text

/-! ## Digits -/

theorem isDigit_iff {c : Char} : isDigit c = true ↔ 48 ≤ c.toNat ∧ c.toNat ≤ 57 := by
  rw [isDigit, Bool.and_eq_true, decide_eq_true_eq, decide_eq_true_eq]
  exact Iff.rfl

theorem isBlank_of_isDigit {c : Char} (h : isDigit c = true) : isBlank c = false := by
  obtain ⟨hlow, hhigh⟩ := isDigit_iff.mp h
  simp only [isBlank, blankRanges, List.any_cons, List.any_nil, Bool.or_false, Bool.or_eq_false_iff,
    Bool.and_eq_false_iff, decide_eq_false_iff_not]
  omega

theorem isDigit_eq (c : Char) : isDigit c = c.isDigit := by
  refine Bool.eq_iff_iff.mpr ?_
  rw [isDigit, Char.isDigit, Bool.and_eq_true, Bool.and_eq_true, decide_eq_true_eq,
    decide_eq_true_eq, decide_eq_true_eq, decide_eq_true_eq]
  exact Iff.rfl

/-- The value of a row of digits, as the library counts it. -/
theorem digitsValue_eq (s : List Char) (acc : Nat) :
    digitsValue acc s = Nat.ofDigitChars 10 s acc := by
  induction s generalizing acc with
  | nil => rfl
  | cons c s ih =>
    calc
      digitsValue acc (c :: s) = digitsValue (acc * 10 + digitValue c) s := rfl
      _ = Nat.ofDigitChars 10 s (acc * 10 + digitValue c) := ih _
      _ = Nat.ofDigitChars 10 s (10 * acc + digitValue c) := by rw [Nat.mul_comm acc 10]
      _ = Nat.ofDigitChars 10 (c :: s) acc := Nat.ofDigitChars_cons.symm

/-! ## Reading -/

/-- One or more ASCII digits, and the number that they spell. -/
structure Digits (row : List Char) (n : Nat) : Prop where
  ne_nil : row ≠ []
  isDigit : ∀ c ∈ row, c.isDigit = true
  value : Nat.ofDigitChars 10 row 0 = n

/-- Digits after an optional plus sign, and the number that they spell. -/
inductive Spells : List Char → Nat → Prop
  | bare {row n} (hdigits : Digits row n) : Spells row n
  | signed {row n} (hdigits : Digits row n) : Spells ('+' :: row) n

variable {row : List Char} {n bound : Nat}

/-- A row is read as the number of its digits, if it is made of digits. -/
theorem readDigits?_eq_some_iff : readDigits? row = some n ↔ Digits row n := by
  have hall : row.all isDigit = true ↔ ∀ c ∈ row, c.isDigit = true := by
    simp only [List.all_eq_true, isDigit_eq]
  rw [readDigits?, digitsValue_eq]
  split
  · next hrefused =>
    refine iff_of_false (fun h => nomatch h) fun h => ?_
    rw [hall.mpr h.isDigit, List.isEmpty_eq_false_iff.mpr h.ne_nil] at hrefused
    nomatch hrefused
  · next hdigits =>
    rw [Bool.not_eq_true, Bool.or_eq_false_iff, Bool.not_eq_false',
      List.isEmpty_eq_false_iff] at hdigits
    constructor
    · intro h
      exact ⟨hdigits.1, hall.mp hdigits.2, Option.some.inj h⟩
    · intro h
      rw [h.value]

/-- The plus sign is no digit. -/
theorem Digits.withoutPlus (h : Digits row n) : withoutPlus row = row := by
  cases row with
  | nil => rfl
  | cons c rest =>
    rw [Text.withoutPlus]
    intro later heq
    obtain ⟨rfl, rfl⟩ := List.cons.inj heq
    exact absurd (h.isDigit '+' List.mem_cons_self) (by decide)

/-- A plus sign in front makes no difference. -/
theorem readDigits?_withoutPlus_iff : readDigits? (withoutPlus row) = some n ↔ Spells row n := by
  constructor
  · intro h
    rw [withoutPlus.eq_def] at h
    split at h
    · exact .signed (readDigits?_eq_some_iff.mp h)
    · exact .bare (readDigits?_eq_some_iff.mp h)
  · intro h
    cases h with
    | bare hdigits => rw [hdigits.withoutPlus, readDigits?_eq_some_iff.mpr hdigits]
    | signed hdigits => exact readDigits?_eq_some_iff.mpr hdigits

/-- A row is read as a number exactly if it spells one within the bound. -/
theorem readUnsigned?_eq_some_iff : readUnsigned? bound row = some n
    ↔ Spells row n ∧ n ≤ bound := by
  rw [← readDigits?_withoutPlus_iff, readUnsigned?]
  cases readDigits? (withoutPlus row) with
  | none => simp
  | some found =>
    simp only
    split
    · next hle =>
      refine ⟨fun h => ⟨h, Option.some.inj h ▸ hle⟩, fun h => h.1⟩
    · next hgt =>
      refine iff_of_false (fun h => nomatch h) ?_
      rintro ⟨hfound, hle⟩
      exact hgt (Option.some.inj hfound ▸ hle)

/-! ## Writing -/

/-- The digits of a number are digits with that number as their value. -/
theorem digits_decimal (n : Nat) : Digits (decimal n) n where
  ne_nil := Nat.toDigits_ne_nil
  isDigit _ hc := Nat.isDigit_of_mem_toDigits (by decide) (by decide) hc
  value := Nat.ofDigitChars_toDigits (by decide) (by decide)

theorem decimal_injective {m n : Nat} (h : decimal m = decimal n) : m = n := by
  rw [← (digits_decimal m).value, ← (digits_decimal n).value, h]

theorem isDigit_of_mem_decimal {c : Char} (h : c ∈ decimal n) : isDigit c = true := by
  rw [isDigit_eq]
  exact (digits_decimal n).isDigit c h

/-- So a number within the bound is read back as itself. -/
theorem readUnsigned?_decimal (h : n ≤ bound) : readUnsigned? bound (decimal n) = some n :=
  readUnsigned?_eq_some_iff.mpr ⟨.bare (digits_decimal n), h⟩

/-! ## A fixed width -/

theorem padded_one {n : Nat} (h : n < 10) : padded 1 n = [Nat.digitChar n] := by
  rw [padded, decimal, Nat.toDigits_of_lt_base h]
  rfl

/-- One digit more is the last one. -/
theorem padded_succ {width : Nat} (hwidth : 0 < width) (n : Nat) :
    padded (width + 1) n = padded width (n / 10) ++ [Nat.digitChar (n % 10)] := by
  rcases Nat.lt_or_ge n 10 with hlt | hge
  · have htenth : n / 10 = 0 := Nat.div_eq_of_lt hlt
    have hzero : decimal 0 = ['0'] := rfl
    obtain ⟨width, rfl⟩ : ∃ w, width = w + 1 := ⟨width - 1, by omega⟩
    rw [padded, padded, decimal, Nat.toDigits_of_lt_base hlt, htenth, hzero, Nat.mod_eq_of_lt hlt]
    simp only [List.length_singleton, Nat.add_sub_cancel]
    rw [← List.replicate_succ']
  · have hdigits : decimal n = decimal (n / 10) ++ [Nat.digitChar (n % 10)] :=
      Nat.toDigits_of_base_le (by decide) hge
    have hcount : width + 1 - (decimal n).length = width - (decimal (n / 10)).length := by
      rw [hdigits, List.length_append, List.length_singleton]
      omega
    rw [padded, padded]
    simp only [hcount]
    rw [hdigits, List.append_assoc]

theorem padded_two {n : Nat} (h : n < 100) :
    padded 2 n = [Nat.digitChar (n / 10), Nat.digitChar (n % 10)] := by
  rw [padded_succ (by omega), padded_one (by omega)]
  rfl

/-- Four digits are two and two. -/
theorem padded_four (n : Nat) : padded 4 n = padded 2 (n / 100) ++ padded 2 (n % 100) := by
  have hhundredth : n / 10 / 10 = n / 100 := Nat.div_div_eq_div_mul n 10 10
  have htens : n % 100 / 10 = n / 10 % 10 := by omega
  have hunits : n % 100 % 10 = n % 10 := by omega
  rw [padded_succ (by omega), padded_succ (by omega), hhundredth,
    padded_two (n := n % 100) (by omega), htens, hunits, List.append_assoc]
  rfl

end ProxyTrust.Text
