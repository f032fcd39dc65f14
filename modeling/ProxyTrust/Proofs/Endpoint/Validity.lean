/-
  Which endpoints there are.

  1. **The checks** — an endpoint comes from a host and a port, or from a text, and both ways end
     in the same checks (`ofChars`), which are characterised once (`ofChars_eq_ok_iff`).  They
     trim the host first, and what is barred includes all blanks, so that a host that passed has
     none and trimming it again changes nothing.

  2. **Valid endpoints** — what passes the checks is `Valid`, and what is `Valid` passes them
     unchanged, so that the valid endpoints are exactly those that can be had
     (`accepted_iff_valid`).  Later proofs go by `Valid` and never come back to the ways in which
     an endpoint was made.
-/
import ProxyTrust.Endpoint
import ProxyTrust.Proofs.Text.Trimming

namespace ProxyTrust.Endpoint

variable {e : Endpoint} {host : List Char} {port : Nat}

/-- The largest port. -/
def largestPort : Nat := 65535

theorem isBlank_of_isBarred {c : Char} (h : isBarred c = false) : Text.isBlank c = false := by
  rw [isBarred, Bool.or_eq_false_iff, Bool.or_eq_false_iff] at h
  exact h.1.1

/-! ## The checks -/

/-- The checks accept a host and a port exactly if the trimmed host is neither empty nor has a
    barred character, and the port is not zero. -/
theorem ofChars_eq_ok_iff : ofChars host port = .ok e ↔
    (⟨String.ofList (Text.trim host), port⟩ : Endpoint) = e ∧ Text.trim host ≠ []
      ∧ (∀ c ∈ Text.trim host, isBarred c = false) ∧ port ≠ 0 := by
  rw [ofChars]
  by_cases hempty : Text.trim host = []
  · simp [hempty]
  · by_cases hbarred : (Text.trim host).any isBarred = true
    · have hsome : ¬ ∀ c ∈ Text.trim host, isBarred c = false := by
        intro hnone
        obtain ⟨c, hc, hbar⟩ := List.any_eq_true.mp hbarred
        rw [hnone c hc] at hbar
        nomatch hbar
      simp [hempty, hbarred, hsome]
    · have hnone : ∀ c ∈ Text.trim host, isBarred c = false := by
        intro c hc
        exact Bool.eq_false_iff.mpr fun hbar => hbarred (List.any_eq_true.mpr ⟨c, hc, hbar⟩)
      by_cases hport : port = 0
      · simp [hempty, hbarred, hport]
      · simp only [List.isEmpty_iff, hempty, hbarred, hport, if_false]
        constructor
        · intro h
          exact ⟨Except.ok.inj h, hempty, hnone, hport⟩
        · rintro ⟨rfl, -⟩
          rfl

/-- The text of a host: not empty, and without barred characters. -/
def IsHost (s : List Char) : Prop := s ≠ [] ∧ ∀ c ∈ s, isBarred c = false

/-- The same, by what a host is. -/
theorem ofChars_eq_ok_iff_isHost : ofChars host port = .ok e ↔
    (⟨String.ofList (Text.trim host), port⟩ : Endpoint) = e ∧ IsHost (Text.trim host)
      ∧ port ≠ 0 := by
  rw [ofChars_eq_ok_iff, IsHost, and_assoc]

/-- The checks let a host and a port through exactly if there is a host between the blanks and the
    port is not zero. -/
theorem exists_ofChars_iff : (∃ e, ofChars host port = .ok e)
    ↔ IsHost (Text.trim host) ∧ port ≠ 0 := by
  constructor
  · rintro ⟨e, h⟩
    exact (ofChars_eq_ok_iff_isHost.mp h).2
  · intro h
    exact ⟨_, ofChars_eq_ok_iff_isHost.mpr ⟨rfl, h⟩⟩

/-- A host without barred characters is taken as it is. -/
theorem ofChars_eq_ok (hempty : host ≠ []) (hplain : ∀ c ∈ host, isBarred c = false)
    (hport : port ≠ 0) : ofChars host port = .ok ⟨String.ofList host, port⟩ := by
  have htrim : Text.trim host = host :=
    Text.trim_eq_self fun c hc => isBlank_of_isBarred (hplain c hc)
  rw [ofChars_eq_ok_iff, htrim]
  exact ⟨rfl, hempty, hplain, hport⟩

/-- What passes the checks is valid. -/
theorem valid_of_ofChars (hbound : port ≤ largestPort) (h : ofChars host port = .ok e) :
    e.Valid := by
  obtain ⟨rfl, hempty, hplain, hport⟩ := ofChars_eq_ok_iff.mp h
  refine ⟨?_, ?_, Nat.one_le_iff_ne_zero.mpr hport, hbound⟩
  · intro heq
    exact hempty (String.ofList_eq_empty_iff.mp heq)
  · intro c hc
    rw [String.toList_ofList] at hc
    exact hplain c hc

theorem Valid.toList_ne_nil (h : e.Valid) : e.host.toList ≠ [] := fun heq =>
  h.1 (String.toList_eq_nil_iff.mp heq)

/-- The checks change nothing about a valid endpoint. -/
theorem Valid.ofChars_eq (h : e.Valid) : ofChars e.host.toList e.port = .ok e := by
  have hport : e.port ≠ 0 := Nat.one_le_iff_ne_zero.mp h.2.2.1
  rw [ofChars_eq_ok h.toList_ne_nil h.2.1 hport, String.ofList_toList]

/-! ## The two ways -/

/-- What is read from a text passed the checks, on a port that fits into sixteen bits. -/
theorem ofText_eq_ok {text : String} (h : ofText text = .ok e) :
    ∃ host port, port ≤ largestPort ∧ ofChars host port = .ok e := by
  rw [ofText] at h
  split at h
  · nomatch h
  · next row digits _ =>
    split at h
    · nomatch h
    · next port hread =>
      refine ⟨_, port, ?_, h⟩
      rw [Text.readUnsigned?] at hread
      split at hread
      · split at hread
        · next hle => exact Option.some.inj hread ▸ hle
        · nomatch hread
      · nomatch hread

/-- The endpoint is made from a host and a port, or read from a text. -/
inductive Accepted (e : Endpoint) : Prop
  | ofParts {host : String} {port : Nat} (hbound : port ≤ largestPort)
    (h : ofParts host port = .ok e)
  | ofText {text : String} (h : ofText text = .ok e)

/-- The endpoints that can be had are the valid ones. -/
theorem accepted_iff_valid : Accepted e ↔ e.Valid := by
  constructor
  · intro h
    cases h with
    | ofParts hbound h => exact valid_of_ofChars hbound h
    | ofText h =>
      obtain ⟨host, port, hbound, hchars⟩ := ofText_eq_ok h
      exact valid_of_ofChars hbound hchars
  · intro h
    exact .ofParts h.2.2.2 h.ofChars_eq

end ProxyTrust.Endpoint
