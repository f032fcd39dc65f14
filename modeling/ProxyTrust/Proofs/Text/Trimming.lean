/-
  Trimming, said without the trimming.

  `Trimmed s t` says that `t` is `s` without the blanks at its two ends: what was cut off is
  blank, and what is left neither begins nor ends with a blank.  There is one such text, and
  `trim` finds it (`trim_eq_iff`): from the front blanks are dropped until something else stands
  there, and from the end likewise on the reversed text.  A text without blanks is its own, and
  nothing gets longer.

  Other modules state what a text is read as by `Trimmed`, so that they need not know how the
  blanks are dropped.
-/
import ProxyTrust.Text.Blank

namespace ProxyTrust.Text

variable {s t front : List Char}

/-- The second text is the first one without the blanks at its two ends. -/
structure Trimmed (s t : List Char) : Prop where
  ends : ∃ front back, s = front ++ t ++ back ∧ (∀ c ∈ front, isBlank c = true)
    ∧ ∀ c ∈ back, isBlank c = true
  head : ∀ c ∈ t.head?, isBlank c = false
  last : ∀ c ∈ t.getLast?, isBlank c = false

/-! ## One end -/

/-- What is dropped is blank, and what is left does not begin with a blank. -/
theorem dropWhile_isBlank_spec (s : List Char) :
    ∃ front, s = front ++ s.dropWhile isBlank ∧ (∀ c ∈ front, isBlank c = true)
      ∧ ∀ c ∈ (s.dropWhile isBlank).head?, isBlank c = false := by
  refine ⟨s.takeWhile isBlank, List.takeWhile_append_dropWhile.symm, ?_, ?_⟩
  · exact List.all_eq_true.mp List.all_takeWhile
  · intro c hc
    have hkept := List.head?_dropWhile_not isBlank s
    rw [Option.mem_def.mp hc] at hkept
    simpa using hkept

theorem dropWhile_isBlank_of_head (h : ∀ c ∈ s.head?, isBlank c = false) :
    s.dropWhile isBlank = s := by
  cases s with
  | nil => rfl
  | cons c s => rw [List.dropWhile_cons, h c rfl, if_neg Bool.false_ne_true]

/-- A blank row in front is dropped whole. -/
theorem dropWhile_isBlank_append (hfront : ∀ c ∈ front, isBlank c = true)
    (h : ∀ c ∈ s.head?, isBlank c = false) : (front ++ s).dropWhile isBlank = s := by
  rw [List.dropWhile_append_of_pos hfront, dropWhile_isBlank_of_head h]

/-- A character that is no blank keeps what is behind it. -/
theorem trimStart_append_cons {d : Char} (hd : isBlank d = false) (s t : List Char) :
    trimStart (s ++ d :: t) = trimStart s ++ d :: t := by
  rw [trimStart, trimStart, List.dropWhile_append]
  split
  · next hempty =>
    rw [List.isEmpty_iff.mp hempty, List.dropWhile_cons, hd, if_neg Bool.false_ne_true,
      List.nil_append]
  · rfl

theorem trimEnd_eq_self (h : ∀ c ∈ s.getLast?, isBlank c = false) : trimEnd s = s := by
  have hback : ∀ c ∈ s.reverse.head?, isBlank c = false := by
    intro c hc
    rw [List.head?_reverse] at hc
    exact h c hc
  rw [trimEnd, dropWhile_isBlank_of_head hback, List.reverse_reverse]

/-! ## Both ends -/

/-- What trimming gives is the text without the blanks at its ends. -/
theorem trimmed_trim (s : List Char) : Trimmed s (trim s) := by
  obtain ⟨front, hs, hfront, hhead⟩ := dropWhile_isBlank_spec s
  -- the end is the front of the row read backwards
  obtain ⟨back, hback, hblank, hlast⟩ := dropWhile_isBlank_spec (trimStart s).reverse
  have hstart : trimStart s = trim s ++ back.reverse := by
    have hreverse := congrArg List.reverse hback
    rwa [List.reverse_reverse, List.reverse_append] at hreverse
  refine ⟨⟨front, back.reverse, ?_, hfront, ?_⟩, ?_, ?_⟩
  · rw [List.append_assoc, ← hstart]
    exact hs
  · intro c hc
    exact hblank c (List.mem_reverse.mp hc)
  · intro c hc
    refine hhead c ?_
    rw [← trimStart, hstart, List.head?_append, Option.mem_def.mp hc]
    rfl
  · intro c hc
    refine hlast c ?_
    rwa [trim, trimEnd, List.getLast?_reverse] at hc

/-- There is no other such text. -/
theorem Trimmed.trim_eq (h : Trimmed s t) : trim s = t := by
  obtain ⟨front, back, rfl, hfront, hback⟩ := h.ends
  have hbackward : ∀ c ∈ back.reverse, isBlank c = true :=
    fun c hc => hback c (List.mem_reverse.mp hc)
  have hlast : ∀ c ∈ t.reverse.head?, isBlank c = false := by
    intro c hc
    rw [List.head?_reverse] at hc
    exact h.last c hc
  have hend : trimEnd (t ++ back) = t := by
    rw [trimEnd, List.reverse_append, dropWhile_isBlank_append hbackward hlast,
      List.reverse_reverse]
  rw [trim, trimStart, List.append_assoc, List.dropWhile_append_of_pos hfront]
  cases t with
  | nil =>
    -- the whole text is blank
    have hall : (back ++ []).dropWhile isBlank = [] := List.dropWhile_append_of_pos hback
    rw [List.append_nil] at hall
    rw [List.nil_append, hall]
    rfl
  | cons c t =>
    rw [dropWhile_isBlank_of_head (s := c :: t ++ back) h.head]
    exact hend

theorem trim_eq_iff : trim s = t ↔ Trimmed s t :=
  ⟨fun h => h ▸ trimmed_trim s, Trimmed.trim_eq⟩

/-- Trimming takes only blanks away. -/
theorem Trimmed.mem_iff (h : Trimmed s t) {c : Char} (hc : isBlank c = false) : c ∈ t ↔ c ∈ s := by
  obtain ⟨front, back, rfl, hfront, hback⟩ := h.ends
  have hout {row : List Char} (hrow : ∀ d ∈ row, isBlank d = true) : c ∉ row := by
    intro hmem
    rw [hrow c hmem] at hc
    nomatch hc
  simp [hout hfront, hout hback]

theorem trimmed_self (hhead : ∀ c ∈ s.head?, isBlank c = false)
    (hlast : ∀ c ∈ s.getLast?, isBlank c = false) : Trimmed s s := by
  have hnone : ∀ c ∈ ([] : List Char), isBlank c = true := fun c hc => absurd hc List.not_mem_nil
  exact ⟨⟨[], [], by simp, hnone, hnone⟩, hhead, hlast⟩

theorem trim_eq_self (h : ∀ c ∈ s, isBlank c = false) : trim s = s := by
  refine (trimmed_self ?_ ?_).trim_eq
  · exact fun c hc => h c (List.mem_of_head? hc)
  · exact fun c hc => h c (List.mem_of_getLast? hc)

theorem length_trim_le (s : List Char) : (trim s).length ≤ s.length := by
  obtain ⟨front, back, hs, -, -⟩ := (trimmed_trim s).ends
  have hlength := congrArg List.length hs
  simp only [List.length_append] at hlength
  omega

/-- The blanks at the beginning play no part in what is left. -/
theorem trim_trimStart (s : List Char) : trim (trimStart s) = trim s := by
  obtain ⟨front, -, -, hhead⟩ := dropWhile_isBlank_spec s
  have htwice : trimStart (trimStart s) = trimStart s := dropWhile_isBlank_of_head hhead
  rw [trim, trim, htwice]

end ProxyTrust.Text
