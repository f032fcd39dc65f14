/-
  Strings that were written, read again.

  1. **Characters** — what is written for a character is read as that character, whatever follows
     it: a short escape, the code point of a control in four digits, or the character itself.  The
     three cases are those of `writtenChar`.

  2. **Strings** — so the characters between the quotes are read one by one up to the closing
     quote, by induction on the text.  Reading a character takes at least one, so that what is
     written is long enough to be the fuel for it.

  3. **Quotes** — the opening quote is never taken for the first of three, because a quote inside
     is escaped (`anyString_writtenString`).  The one text where two quotes stand in a row is the
     empty one, and a third would have to follow the string.
-/
import ProxyTrust.Toml.Printer
import ProxyTrust.Toml.Quoting

namespace ProxyTrust.Toml

variable {c : Char} {rest : List Char} {fuel : Nat}

/-! ## Characters -/

theorem hexValue?_hexForm : ∀ n < 16, hexValue? (hexForm n) = some n := by
  decide

/-- A short escape is read as the character that it was written for. -/
theorem escape_shortForm {e : Char × Char} (he : e ∈ shortForms) (rest : List Char) :
    escape (e.2 :: rest) = some (e.1, rest) := by
  simp only [shortForms, List.mem_cons, List.not_mem_nil, or_false] at he
  rcases he with rfl | rfl | rfl | rfl | rfl | rfl | rfl <;> rfl

/-- The four digits of a control. -/
theorem escape_control (hc : c.toNat < 0x80) (rest : List Char) :
    escape ('u' :: '0' :: '0' :: hexForm (c.toNat / 16) :: hexForm (c.toNat % 16) :: rest)
      = some (c, rest) := by
  have hzero : hexValue? '0' = some 0 := by decide
  have hhigh : hexValue? (hexForm (c.toNat / 16)) = some (c.toNat / 16) :=
    hexValue?_hexForm _ (by omega)
  have hlow : hexValue? (hexForm (c.toNat % 16)) = some (c.toNat % 16) :=
    hexValue?_hexForm _ (by omega)
  have hsum : c.toNat / 16 * 16 + c.toNat % 16 = c.toNat := by omega
  have hchar : charOf? c.toNat = some c := by
    rw [charOf?, if_pos (by simp; omega), Char.ofNat_toNat]
  have hlength :
      ¬ ('0' :: '0' :: hexForm (c.toNat / 16) :: hexForm (c.toNat % 16) :: rest).length < 4 := by
    simp only [List.length_cons]
    omega
  rw [escape, codePoint, if_neg hlength]
  simp [hzero, hhigh, hlow, hsum, hchar]

/-- A character that is no control, no quote and no backslash stands for itself. -/
theorem basicRest_plain (hquote : c ≠ '"') (hbackslash : c ≠ '\\')
    (hprintable : isPrintable c = true) (fuel : Nat) (rest : List Char) :
    basicRest (fuel + 1) (c :: rest) = (basicRest fuel rest).map fun r => (c :: r.1, r.2) := by
  rw [basicRest]
  · exact if_pos hprintable
  · exact hquote
  · exact hbackslash

/-- What is written for a character is read as the character. -/
theorem basicRest_writtenChar (c : Char) (fuel : Nat) (rest : List Char) :
    basicRest (fuel + 1) (writtenChar c ++ rest)
      = (basicRest fuel rest).map fun r => (c :: r.1, r.2) := by
  rw [writtenChar]
  split
  · -- a short escape
    next e hfound =>
    have he : e ∈ shortForms := List.mem_of_find?_eq_some hfound
    obtain rfl : e.1 = c := by simpa using List.find?_some hfound
    simp only [List.cons_append, List.nil_append]
    rw [basicRest, escape_shortForm he]
  · next hnone =>
    have hother : ∀ e ∈ shortForms, e.1 ≠ c := by
      intro e he heq
      have hfalse := List.find?_eq_none.mp hnone e he
      simp [heq] at hfalse
    split
    · -- a control without one
      next hcontrol =>
      have hsmall : c.toNat < 0x80 := by
        simp only [Bool.or_eq_true, decide_eq_true_eq, beq_iff_eq] at hcontrol
        omega
      simp only [List.cons_append, List.nil_append]
      rw [basicRest, escape_control hsmall]
    · -- any other character stands for itself
      next hplain =>
      have hprintable : isPrintable c = true := by
        simp only [Bool.or_eq_true, decide_eq_true_eq, beq_iff_eq, not_or] at hplain
        simp only [isPrintable, Bool.or_eq_true, Bool.and_eq_true, decide_eq_true_eq, bne_iff_ne]
        exact .inr ⟨by omega, hplain.2⟩
      have hquote : c ≠ '"' := fun heq => hother ('"', '"') (by simp [shortForms]) heq.symm
      have hbackslash : c ≠ '\\' := fun heq => hother ('\\', '\\') (by simp [shortForms]) heq.symm
      exact basicRest_plain hquote hbackslash hprintable fuel rest

/-! ## Strings -/

/-- What is written for a character is there, and is no quote at its beginning. -/
theorem writtenChar_cons (c : Char) :
    ∃ first more, writtenChar c = first :: more ∧ first ≠ '"' := by
  rw [writtenChar]
  split
  · exact ⟨_, _, rfl, by decide⟩
  · next hnone =>
    split
    · exact ⟨_, _, rfl, by decide⟩
    · refine ⟨c, [], rfl, ?_⟩
      rintro rfl
      exact absurd hnone (by decide)

/-- The characters of a string up to the closing quote. -/
theorem basicRest_flatMap_writtenChar (s : List Char) (h : s.length < fuel) (rest : List Char) :
    basicRest fuel (s.flatMap writtenChar ++ '"' :: rest) = some (s, rest) := by
  induction s generalizing fuel with
  | nil =>
    obtain ⟨fuel, rfl⟩ := Nat.exists_eq_add_of_lt h
    rw [List.flatMap_nil, List.nil_append, basicRest]
  | cons c s ih =>
    rw [List.length_cons] at h
    obtain ⟨fuel, rfl⟩ : ∃ left, fuel = left + 1 := ⟨fuel - 1, by omega⟩
    rw [List.flatMap_cons, List.append_assoc, basicRest_writtenChar, ih (by omega)]
    rfl

theorem length_le_flatMap_writtenChar (s : List Char) :
    s.length ≤ (s.flatMap writtenChar).length := by
  induction s with
  | nil => exact Nat.le_refl 0
  | cons c s ih =>
    obtain ⟨first, more, hwritten, -⟩ := writtenChar_cons c
    rw [List.flatMap_cons, hwritten, List.length_append, List.length_cons, List.length_cons]
    omega

theorem writtenString_append (s rest : List Char) :
    writtenString s ++ rest = '"' :: (s.flatMap writtenChar ++ '"' :: rest) := by
  simp [writtenString]

/-- What is written for a text is read as that text. -/
theorem lineString_writtenString (s rest : List Char) :
    lineString (writtenString s ++ rest) = some (s, rest) := by
  have hlength : s.length < (s.flatMap writtenChar ++ '"' :: rest).length := by
    have hle := length_le_flatMap_writtenChar s
    rw [List.length_append, List.length_cons]
    omega
  rw [writtenString_append, lineString]
  exact basicRest_flatMap_writtenChar s hlength rest

/-- A written string is read as the string, unless a quote follows that would make it another
    one. -/
theorem anyString_writtenString (s : List Char) (hrest : rest.head? ≠ some '"') :
    anyString (writtenString s ++ rest) = some (s, rest) := by
  rw [anyString]
  · exact lineString_writtenString s rest
  · -- two quotes after the first one: the string is empty, and a quote follows it
    intro after heq
    rw [writtenString_append] at heq
    obtain ⟨-, heq⟩ := List.cons.inj heq
    cases s with
    | nil =>
      obtain ⟨-, rfl⟩ := List.cons.inj heq
      exact hrest rfl
    | cons c s =>
      obtain ⟨first, more, hfirst, hquote⟩ := writtenChar_cons c
      rw [List.flatMap_cons, hfirst] at heq
      exact hquote (List.cons.inj heq).1
  · intro after heq
    rw [writtenString_append] at heq
    nomatch heq

end ProxyTrust.Toml
