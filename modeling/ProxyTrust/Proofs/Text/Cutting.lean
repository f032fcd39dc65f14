/-
  Cutting a list at the first occurrence of a needle.

  1. **Leads** — `dropLead?` finds the rest of a list after its beginning, and nothing else.

  2. **First occurrences** — `FirstAt needle s before after` says that the needle stands in the list
     between these two and nowhere sooner.

  3. **Finding** — `cutFirst?_eq_some_iff` shows that `cutFirst?` finds the first occurrence.  It
     misses none, which is an induction over what stands before one (`isSome_cutFirst?`); and
     there is only one first occurrence.

  4. **Skipping** — what is put in front moves the first occurrence if none begins in it.  A line
     is such a part if the needle does not stand in it and has no line end of its own.

  5. **Rows** — a list that is cut into rows loses nothing, and all rows but the last are full.
     Lines that are put one after another come back when the text is split at their ends.

  6. **Last occurrences** — `cutLast?` cuts at the one place after which the element does not
     stand again.
-/
import ProxyTrust.Text.Search

namespace ProxyTrust.Text

variable {α : Type} {needle s before after rest : List α}

/-! ## Leads -/

section Leads

variable [DecidableEq α]

/-- What is found after a beginning is the rest of the list after it. -/
theorem dropLead?_eq_some_iff {lead : List α} : dropLead? lead s = some rest
    ↔ s = lead ++ rest := by
  induction lead generalizing s with
  | nil =>
    rw [dropLead?, List.nil_append]
    exact Option.some_inj
  | cons a lead ih =>
    cases s with
    | nil => simp [dropLead?]
    | cons b s =>
      rw [dropLead?, List.cons_append]
      by_cases hab : a = b
      · rw [if_pos hab, ih, hab, List.cons_inj_right]
      · rw [if_neg hab]
        constructor
        · intro h; nomatch h
        · intro h
          exact absurd (List.cons.inj h).1.symm hab

theorem isSome_dropLead?_iff {lead : List α} : (dropLead? lead s).isSome = true ↔ lead <+: s := by
  rw [Option.isSome_iff_exists]
  constructor
  · rintro ⟨rest, hrest⟩
    exact ⟨rest, (dropLead?_eq_some_iff.mp hrest).symm⟩
  · rintro ⟨rest, hrest⟩
    exact ⟨rest, dropLead?_eq_some_iff.mpr hrest.symm⟩

end Leads

/-! ## First occurrences -/

/-- The needle stands in the list between these two, and no occurrence of it begins sooner. -/
structure FirstAt (needle s before after : List α) : Prop where
  eq : s = before ++ needle ++ after
  first : ∀ front back, s = front ++ needle ++ back → before.length ≤ front.length

/-- There is one first occurrence at most. -/
theorem FirstAt.unique {before' after' : List α} (h : FirstAt needle s before after)
    (h' : FirstAt needle s before' after') : before = before' ∧ after = after' := by
  have hlength : before.length = before'.length :=
    Nat.le_antisymm (h.first _ _ h'.eq) (h'.first _ _ h.eq)
  have heq : before ++ (needle ++ after) = before' ++ (needle ++ after') := by
    rw [← List.append_assoc, ← List.append_assoc, ← h.eq, h'.eq]
  obtain ⟨hbefore, hrest⟩ := List.append_inj heq hlength
  exact ⟨hbefore, List.append_cancel_left hrest⟩

theorem FirstAt.of_lead (h : s = needle ++ after) : FirstAt needle s [] after :=
  ⟨h, fun _ _ _ => Nat.zero_le _⟩

/-- An element in front of a list in which no occurrence begins moves the first one by one. -/
theorem FirstAt.cons {a : α} (h : FirstAt needle s before after)
    (hlead : ∀ rest, a :: s ≠ needle ++ rest) : FirstAt needle (a :: s) (a :: before) after := by
  refine ⟨by rw [h.eq]; rfl, ?_⟩
  intro front back heq
  cases front with
  | nil => exact absurd heq (hlead back)
  | cons b front =>
    have hs : s = front ++ needle ++ back := (List.cons.inj heq).2
    exact Nat.succ_le_succ (h.first front back hs)

/-- What begins with a list without an element ends before that element. -/
theorem prefix_of_prefix_append_cons {x : α} {line : List α} (hx : x ∉ needle)
    (h : needle <+: line ++ x :: s) : needle <+: line := by
  induction line generalizing needle with
  | nil =>
    cases needle with
    | nil => exact List.nil_prefix
    | cons a needle =>
      obtain ⟨rest, hrest⟩ := h
      -- it would begin with the element
      exact absurd (List.cons.inj hrest).1.symm (List.ne_of_not_mem_cons hx)
  | cons a line ih =>
    cases needle with
    | nil => exact List.nil_prefix
    | cons b needle =>
      obtain ⟨hab, hrest⟩ := List.cons_prefix_cons.mp h
      exact List.cons_prefix_cons.mpr ⟨hab, ih (List.not_mem_of_not_mem_cons hx) hrest⟩

/-! ## Finding -/

section Finding

variable [DecidableEq α]

/-- `cutFirst?` finds the first occurrence. -/
theorem firstAt_of_cutFirst? (h : cutFirst? needle s = some (before, after)) :
    FirstAt needle s before after := by
  induction s generalizing before with
  | nil =>
    rw [cutFirst?] at h
    obtain ⟨rest, hrest, heq⟩ := Option.map_eq_some_iff.mp h
    obtain ⟨rfl, rfl⟩ := Prod.mk.inj heq
    exact .of_lead (dropLead?_eq_some_iff.mp hrest)
  | cons a s ih =>
    rw [cutFirst?] at h
    split at h
    · -- the needle begins here
      next rest hrest =>
      obtain ⟨rfl, rfl⟩ := Prod.mk.inj (Option.some.inj h)
      exact .of_lead (dropLead?_eq_some_iff.mp hrest)
    · -- it does not begin here, so that the first occurrence in what follows is the first one
      next hlead =>
      obtain ⟨⟨later, rest⟩, hcut, heq⟩ := Option.map_eq_some_iff.mp h
      obtain ⟨rfl, rfl⟩ := Prod.mk.inj heq
      refine (ih hcut).cons ?_
      intro rest heq
      rw [dropLead?_eq_some_iff.mpr heq] at hlead
      nomatch hlead

/-- `cutFirst?` finds something wherever the needle occurs. -/
theorem isSome_cutFirst? (needle front back : List α) :
    (cutFirst? needle (front ++ needle ++ back)).isSome = true := by
  induction front with
  | nil =>
    have hlead : dropLead? needle (needle ++ back) = some back := dropLead?_eq_some_iff.mpr rfl
    rw [List.nil_append]
    cases hs : needle ++ back with
    | nil =>
      rw [hs] at hlead
      rw [cutFirst?, hlead]
      rfl
    | cons a s =>
      rw [hs] at hlead
      rw [cutFirst?, hlead]
      rfl
  | cons a front ih =>
    rw [List.cons_append, List.cons_append, cutFirst?]
    split
    · -- cut sooner than at the given occurrence
      rfl
    · rw [Option.isSome_map]
      exact ih

/-- A list is cut at the first occurrence, and nowhere else. -/
theorem cutFirst?_eq_some_iff :
    cutFirst? needle s = some (before, after) ↔ FirstAt needle s before after := by
  constructor
  · exact firstAt_of_cutFirst?
  · intro h
    have hsome := isSome_cutFirst? needle before after
    rw [← h.eq] at hsome
    obtain ⟨⟨before', after'⟩, hcut⟩ := Option.isSome_iff_exists.mp hsome
    obtain ⟨rfl, rfl⟩ := h.unique (firstAt_of_cutFirst? hcut)
    exact hcut

/-! ## Skipping -/

/-- A list in front in which no occurrence begins moves the first one. -/
theorem cutFirst?_append {front : List α}
    (hfront : ∀ u v, front = u ++ v → v ≠ [] → ¬ needle <+: v ++ s) :
    cutFirst? needle (front ++ s)
      = (cutFirst? needle s).map fun cut => (front ++ cut.1, cut.2) := by
  induction front with
  | nil => cases h : cutFirst? needle s <;> simp [h]
  | cons a front ih =>
    have hlater : ∀ u v, front = u ++ v → v ≠ [] → ¬ needle <+: v ++ s := by
      intro u v heq hv
      exact hfront (a :: u) v (by rw [heq]; rfl) hv
    rw [List.cons_append, cutFirst?]
    split
    · next rest hlead =>
      have hprefix : needle <+: a :: (front ++ s) := ⟨rest, (dropLead?_eq_some_iff.mp hlead).symm⟩
      exact absurd hprefix (hfront [] (a :: front) rfl (List.cons_ne_nil a front))
    · rw [ih hlater, Option.map_map]
      rfl

/-- No occurrence of a needle begins in a list without the first element of the needle. -/
theorem FirstAt.skip {a : α} (h : FirstAt needle s before after) {front : List α}
    (hneedle : needle.head? = some a) (hfront : a ∉ front) :
    FirstAt needle (front ++ s) (front ++ before) after := by
  refine cutFirst?_eq_some_iff.mp ?_
  rw [cutFirst?_append, cutFirst?_eq_some_iff.mpr h]
  · rfl
  · obtain ⟨tail, rfl⟩ := List.head?_eq_some_iff.mp hneedle
    rintro u v rfl hv ⟨rest, hrest⟩
    cases v with
    | nil => exact hv rfl
    | cons b v =>
      obtain rfl : a = b := (List.cons.inj hrest).1
      exact hfront (by simp)

/-- A line that does not hold the needle is skipped with the element that ends it, if the needle
    does not hold that element. -/
theorem cutFirst?_line {x : α} {line : List α} (hx : x ∉ needle) (hempty : needle ≠ [])
    (hline : ¬ needle <:+: line) :
    cutFirst? needle (line ++ [x] ++ s)
      = (cutFirst? needle s).map fun cut => (line ++ [x] ++ cut.1, cut.2) := by
  refine cutFirst?_append ?_
  intro u v heq hv hprefix
  -- the part of the line that is looked at ends in the element as well
  rcases List.append_eq_append_iff.mp heq with ⟨w, -, hend⟩ | ⟨w, rfl, rfl⟩
  · obtain ⟨rfl, rfl⟩ : w = [] ∧ v = [x] := by
      rcases List.append_eq_singleton_iff.mp hend.symm with h | ⟨-, h⟩
      · exact h
      · exact absurd h hv
    have hnil : needle <+: [] := prefix_of_prefix_append_cons hx hprefix
    exact hempty (List.prefix_nil.mp hnil)
  · rw [List.append_assoc, List.singleton_append] at hprefix
    exact hline
      ((prefix_of_prefix_append_cons hx hprefix).isInfix.trans (List.suffix_append u w).isInfix)

end Finding

/-! ## Rows -/

section Rows

variable {width : Nat} {hwidth : 0 < width} {front : List α}

/-- Rows hold the elements of the list in order. -/
theorem flatten_chunks (width : Nat) (hwidth : 0 < width) (s : List α) :
    (chunks width hwidth s).flatten = s := by
  induction s using chunks.induct width hwidth with
  | case1 => rw [chunks, dif_pos rfl, List.flatten_nil]
  | case2 s hs ih => rw [chunks, dif_neg hs, List.flatten_cons, ih, List.take_append_drop]

theorem chunks_nil : chunks width hwidth ([] : List α) = [] := by
  rw [chunks, dif_pos rfl]

/-- A full row in front is a row of its own. -/
theorem chunks_append (hfront : front.length = width) (s : List α) :
    chunks width hwidth (front ++ s) = front :: chunks width hwidth s := by
  have hne : front ++ s ≠ [] := by
    intro hnil
    have hlength := congrArg List.length hnil
    rw [List.length_append, List.length_nil] at hlength
    omega
  rw [chunks, dif_neg hne, List.take_left' hfront, List.drop_left' hfront]

theorem chunks_of_le (hne : s ≠ []) (hle : s.length ≤ width) : chunks width hwidth s = [s] := by
  rw [chunks, dif_neg hne, List.take_of_length_le hle, List.drop_of_length_le hle, chunks_nil]

/-- All rows but the last are full, and the last one is not empty. -/
theorem chunks_eq_concat (hne : s ≠ []) :
    ∃ full last, chunks width hwidth s = full ++ [last] ∧ (∀ row ∈ full, row.length = width)
      ∧ 0 < last.length ∧ last.length ≤ width ∧ s.length = full.length * width + last.length := by
  induction s using chunks.induct width hwidth with
  | case1 => exact absurd rfl hne
  | case2 s hs ih =>
    by_cases hle : s.length ≤ width
    · -- the last row
      exact ⟨[], s, chunks_of_le hs hle, by simp, List.length_pos_iff.mpr hs, hle, by simp⟩
    · -- a full row, and rows after it
      have hrest : s.drop width ≠ [] := by
        rw [ne_eq, List.drop_eq_nil_iff]
        exact hle
      obtain ⟨full, last, hchunks, hfull, hpos, hlast, hlength⟩ := ih hrest
      have hfirst : (s.take width).length = width := List.length_take_of_le (Nat.le_of_not_le hle)
      refine ⟨s.take width :: full, last, ?_, List.forall_mem_cons.mpr ⟨hfirst, hfull⟩, hpos,
        hlast, ?_⟩
      · rw [chunks, dif_neg hs, hchunks, List.cons_append]
      · rw [List.length_drop] at hlength
        rw [List.length_cons, Nat.succ_mul]
        omega

end Rows

/-- Lines with one end after each, split at the ends: the lines, and nothing after the last end. -/
theorem splitOn_lines [BEq α] [LawfulBEq α] {x : α} {lines : List (List α)}
    (hlines : ∀ line ∈ lines, x ∉ line) :
    List.splitOn x (lines.flatMap (· ++ [x])) = lines ++ [[]] := by
  induction lines with
  | nil => exact List.splitOn_nil x
  | cons line lines ih =>
    obtain ⟨hline, hlines⟩ := List.forall_mem_cons.mp hlines
    have hfree : ∀ a ∈ line, (a == x) = false := by
      intro a ha
      rw [beq_eq_false_iff_ne]
      rintro rfl
      exact hline ha
    rw [List.splitOn_eq_splitOnP] at ih ⊢
    rw [List.flatMap_cons, List.append_assoc, List.singleton_append,
      List.splitOnP_append_cons_of_forall_mem hfree x (beq_self_eq_true x), ih hlines,
        List.cons_append]

/-! ## Last occurrences -/

section Last

variable [DecidableEq α] {x : α}

/-- There is no cut exactly if the element does not stand in the list. -/
theorem cutLast?_eq_none_iff : cutLast? x s = none ↔ x ∉ s := by
  induction s with
  | nil => simp [cutLast?]
  | cons a s ih =>
    rw [cutLast?, List.mem_cons, not_or]
    cases hcut : cutLast? x s with
    | some cut =>
      rw [hcut] at ih
      have hmem : x ∈ s := Decidable.not_not.mp fun hx => nomatch ih.mpr hx
      exact iff_of_false (fun h => nomatch h) fun h => h.2 hmem
    | none =>
      have hlater : x ∉ s := ih.mp hcut
      by_cases hax : a = x
      · simp [hax]
      · simp [hax, hlater, Ne.symm hax]

/-- A list is cut at the last place where the element stands. -/
theorem cutLast?_eq_some_iff :
    cutLast? x s = some (before, after) ↔ s = before ++ x :: after ∧ x ∉ after := by
  induction s generalizing before with
  | nil => simp [cutLast?]
  | cons a s ih =>
    rw [cutLast?]
    cases hcut : cutLast? x s with
    | some cut =>
      -- there is an occurrence in the rest, and the last one of all is the last one there
      obtain ⟨later, rest⟩ := cut
      have hmem : x ∈ s := Decidable.not_not.mp fun hx => by
        rw [cutLast?_eq_none_iff.mpr hx] at hcut
        nomatch hcut
      constructor
      · intro h
        obtain ⟨rfl, rfl⟩ := Prod.mk.inj (Option.some.inj h)
        obtain ⟨rfl, hlast⟩ := ih.mp hcut
        exact ⟨rfl, hlast⟩
      · rintro ⟨heq, hlast⟩
        cases before with
        | nil =>
          obtain ⟨-, rfl⟩ := List.cons.inj heq
          exact absurd hmem hlast
        | cons b before =>
          obtain ⟨rfl, hs⟩ := List.cons.inj heq
          have hsame := ih.mpr ⟨hs, hlast⟩
          rw [hcut] at hsame
          obtain ⟨rfl, rfl⟩ := Prod.mk.inj (Option.some.inj hsame)
          rfl
    | none =>
      have hlater : x ∉ s := cutLast?_eq_none_iff.mp hcut
      constructor
      · intro h
        simp only at h
        split at h
        · next hax =>
          obtain ⟨rfl, rfl⟩ := Prod.mk.inj (Option.some.inj h)
          exact ⟨by rw [hax]; rfl, hlater⟩
        · nomatch h
      · rintro ⟨heq, hlast⟩
        cases before with
        | nil =>
          obtain ⟨rfl, rfl⟩ := List.cons.inj heq
          exact if_pos rfl
        | cons b before =>
          obtain ⟨-, rfl⟩ := List.cons.inj heq
          exact absurd (by simp) hlater

end Last

end ProxyTrust.Text
