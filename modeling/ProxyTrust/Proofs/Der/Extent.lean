/-
  Which bytes a reader of elements looks at.

  1. **Front** — `TakesFront read` says that the reader takes bytes off the front and does not
     look behind them: put anything else there, and it gives the same value and hands that back.
     Two readers, one after the other, take what both of them take (`TakesFront.andThen`).  What a
     certificate is read from is then a front of its block, whatever the readers in between are.

  2. **Headers** — tags, lengths and both put together take the front.  A tag number may go on for
     some bytes, but its last byte tells that it is the last.

  3. **Elements** — every reader of definite lengths takes the front, since it knows the length
     before the first byte of the content.
-/
import ProxyTrust.Proofs.Der.Element
import ProxyTrust.Proofs.Outcome

namespace ProxyTrust.Der

variable {ε α β : Type}

/-! ## Front -/

/-- Where the reader succeeds, it takes bytes off the front, and what is behind them plays no
    part. -/
def TakesFront (read : List UInt8 → Except ε (α × List UInt8)) : Prop :=
  ∀ bytes v rest, read bytes = .ok (v, rest) →
    ∃ front, bytes = front ++ rest ∧ ∀ other, read (front ++ other) = .ok (v, other)

/-- Two readers take the bytes of the first one and then those of the second one. -/
theorem TakesFront.andThen {first : List UInt8 → Except ε (α × List UInt8)}
    {next : List UInt8 → Except ε (β × List UInt8)} (hfirst : TakesFront first)
    (hnext : TakesFront next) {bytes between rest : List UInt8} {v : α} {w : β}
    (hv : first bytes = .ok (v, between)) (hw : next between = .ok (w, rest)) :
    ∃ front, bytes = front ++ rest ∧ ∀ other, ∃ later,
      first (front ++ other) = .ok (v, later) ∧ next later = .ok (w, other) := by
  obtain ⟨front, rfl, hfront⟩ := hfirst _ _ _ hv
  obtain ⟨later, rfl, hlater⟩ := hnext _ _ _ hw
  refine ⟨front ++ later, (List.append_assoc ..).symm, fun other =>
    ⟨later ++ other, ?_, hlater other⟩⟩
  rw [List.append_assoc, hfront]

/-! ## Headers -/

/-- A tag number in base 128 ends at its own last byte.  The induction is on the bytes, with the
    count and the number so far left open. -/
theorem takesFront_readHighTag (count acc : Nat) : TakesFront (readHighTag count acc) := by
  intro bytes v rest h
  induction bytes generalizing count acc with
  | nil => cases h
  | cons b bytes ih =>
    rw [readHighTag] at h
    split at h
    · cases h
    · next hcount =>
      simp only at h
      split at h
      · -- the last byte of the number
        next hlast =>
        obtain ⟨rfl, rfl⟩ := Prod.mk.inj (Except.ok.inj h)
        refine ⟨[b], rfl, fun other => ?_⟩
        rw [List.singleton_append, readHighTag, if_neg hcount]
        exact if_pos hlast
      · -- one byte more, and the rest is taken off the front by induction
        next hmore =>
        obtain ⟨front, rfl, hfront⟩ := ih _ _ h
        refine ⟨b :: front, rfl, fun other => ?_⟩
        rw [List.cons_append, readHighTag, if_neg hcount, ← hfront other]
        exact if_neg hmore

/-- A tag is taken off the front, in one byte or more. -/
theorem takesFront_readTag : TakesFront readTag := by
  intro bytes v rest h
  cases bytes with
  | nil => cases h
  | cons b bytes =>
    rw [readTag] at h
    split at h
    · next hhigh =>
      obtain ⟨⟨tag, after⟩, htag, hv⟩ := map_eq_ok_iff.mp h
      obtain ⟨rfl, rfl⟩ := Prod.mk.inj hv
      obtain ⟨front, rfl, hfront⟩ := takesFront_readHighTag 0 0 _ _ _ htag
      refine ⟨b :: front, rfl, fun other => ?_⟩
      rw [List.cons_append, readTag, if_pos hhigh, hfront other]
      rfl
    · next hlow =>
      obtain ⟨rfl, rfl⟩ := Prod.mk.inj (Except.ok.inj h)
      refine ⟨[b], rfl, fun other => ?_⟩
      rw [List.singleton_append, readTag, if_neg hlow]

/-- So is a length, since the row that spells it is read whatever stands behind it. -/
theorem takesFront_readLength : TakesFront readLength := by
  intro bytes v rest h
  obtain ⟨row, hbytes, hspells⟩ := spellsLength_of_readLength h
  exact ⟨row, hbytes, hspells.readLength⟩

theorem takesFront_looseHeader : TakesFront looseHeader := by
  intro bytes v rest h
  rw [looseHeader] at h
  split at h
  · cases h
  · next htag =>
    split at h
    · cases h
    · next hlength =>
      obtain ⟨rfl, rfl⟩ := Prod.mk.inj (Except.ok.inj h)
      obtain ⟨front, rfl, hfront⟩ := takesFront_readTag.andThen takesFront_readLength htag hlength
      refine ⟨front, rfl, fun other => ?_⟩
      obtain ⟨later, htag, hlength⟩ := hfront other
      rw [looseHeader, htag]
      simp only [hlength]

/-- A header of definite length is taken off the front. -/
theorem takesFront_header : TakesFront header := by
  intro bytes v rest h
  rw [header] at h
  split at h
  · cases h
  · next hheader =>
    split at h
    · next hlength =>
      obtain ⟨rfl, rfl⟩ := Prod.mk.inj (Except.ok.inj h)
      obtain ⟨front, rfl, hfront⟩ := takesFront_looseHeader _ _ _ hheader
      refine ⟨front, rfl, fun other => ?_⟩
      rw [header, hfront]
      simp only [hlength]
    · cases h

/-! ## Elements -/

/-- The content ends where the length says. -/
theorem takesFront_takeContent (count : Nat) : TakesFront (takeContent count) := by
  intro bytes v rest h
  rw [takeContent] at h
  split at h
  · cases h
  · next henough =>
    obtain ⟨rfl, rfl⟩ := Prod.mk.inj (Except.ok.inj h)
    have hcount : (bytes.take count).length = count :=
      List.length_take_of_le (Nat.le_of_not_lt henough)
    refine ⟨bytes.take count, (List.take_append_drop count bytes).symm, fun other => ?_⟩
    rw [takeContent, List.take_left' hcount, List.drop_left' hcount, if_neg]
    rw [List.length_append, hcount]
    exact Nat.not_lt.mpr (Nat.le_add_right ..)

/-- An element is a header and as many bytes as it tells. -/
theorem takesFront_element : TakesFront element := by
  intro bytes v rest h
  rw [element] at h
  split at h
  · cases h
  · next hheader =>
    obtain ⟨⟨content, after⟩, hcontent, hv⟩ := map_eq_ok_iff.mp h
    obtain ⟨rfl, rfl⟩ := Prod.mk.inj hv
    obtain ⟨front, rfl, hfront⟩ :=
      takesFront_header.andThen (takesFront_takeContent _) hheader hcontent
    refine ⟨front, rfl, fun other => ?_⟩
    obtain ⟨later, hheader, hcontent⟩ := hfront other
    rw [element, hheader]
    exact map_eq_ok_iff.mpr ⟨_, hcontent, rfl⟩

theorem takesFront_contentOf (tag : Nat) : TakesFront (contentOf tag) := by
  intro bytes v rest h
  rw [contentOf] at h
  split at h
  · cases h
  · next helement =>
    split at h
    · next htag =>
      obtain ⟨rfl, rfl⟩ := Prod.mk.inj (Except.ok.inj h)
      obtain ⟨front, rfl, hfront⟩ := takesFront_element _ _ _ helement
      refine ⟨front, rfl, fun other => ?_⟩
      rw [contentOf, hfront]
      exact if_pos htag
    · cases h

end ProxyTrust.Der
