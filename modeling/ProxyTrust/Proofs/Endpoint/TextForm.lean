/-
  The text form of an endpoint, read again.

  1. **Brackets** — writing puts a pair of them around a host that holds a colon and does not
     begin with one; reading takes one pair off whatever is inside (`unbracket_around`,
     `unbracket_eq_self`).

  2. **Reading** — the last colon of a text form is the one before the port, and there is nothing
     to trim, so that reading comes to the checks on the host with one pair of brackets off
     (`ofText_text`).

  3. **The round trip** — hence the text form tells the endpoint exactly if the host is in no
     brackets of its own (`ofText_text_eq_ok_iff`).  A host in brackets is let through by the
     checks, written as it is and read without them: `ofText_text_ownBrackets` is the smallest
     address of that kind.
-/
import ProxyTrust.Proofs.Endpoint.Validity
import ProxyTrust.Proofs.Text.Cutting
import ProxyTrust.Proofs.Text.Numeral

namespace ProxyTrust.Endpoint

variable {e : Endpoint} {host : List Char}

/-! ## Brackets -/

/-- A host with a pair of brackets around it. -/
def around (host : List Char) : List Char := ['['] ++ host ++ [']']

/-- The host is in brackets of its own. -/
def InBrackets (host : List Char) : Prop := ∃ inner, host = around inner

/-- A pair of brackets is taken off, whatever is inside. -/
theorem unbracket_around (host : List Char) : unbracket (around host) = host := by
  show (if (host ++ [']']).getLast? = some ']' then (host ++ [']']).dropLast else _) = host
  rw [List.getLast?_concat, if_pos rfl, List.dropLast_concat]

/-- Where there is no pair, nothing is taken off. -/
theorem unbracket_eq_self (h : ¬ InBrackets host) : unbracket host = host := by
  rw [unbracket.eq_def]
  split
  · next rest =>
    split
    · next hlast =>
      obtain ⟨inner, rfl⟩ := List.getLast?_eq_some_iff.mp hlast
      exact absurd ⟨inner, rfl⟩ h
    · rfl
  · rfl

/-- A host that is given brackets has none of its own. -/
theorem not_inBrackets_of_needsBrackets (h : needsBrackets host = true) : ¬ InBrackets host := by
  rintro ⟨inner, rfl⟩
  rw [needsBrackets, Bool.and_eq_true] at h
  exact absurd h.2 (by simp [around])

/-- The host as it stands in the text form. -/
def shownHost (host : List Char) : List Char := if needsBrackets host then around host else host

/-- Reading takes off the brackets that writing put around a host, and no others. -/
theorem unbracket_shownHost (host : List Char) : unbracket (shownHost host) = unbracket host := by
  rw [shownHost]
  split
  · next hneeds =>
    rw [unbracket_around, unbracket_eq_self (not_inBrackets_of_needsBrackets hneeds)]
  · rfl

/-! ## Reading -/

theorem chars_eq (e : Endpoint) :
    e.chars = shownHost e.host.toList ++ ':' :: Text.decimal e.port := by
  show shownHost e.host.toList ++ [':'] ++ Text.decimal e.port = _
  rw [List.append_assoc, List.singleton_append]

/-- No character of a text form is a blank. -/
theorem Valid.isBlank_of_mem_chars (h : e.Valid) : ∀ c ∈ e.chars, Text.isBlank c = false := by
  -- a host has no blanks, and brackets are none
  have hshown : ∀ c ∈ shownHost e.host.toList, Text.isBlank c = false := by
    intro c hc
    have hplain : ∀ d ∈ e.host.toList, Text.isBlank d = false :=
      fun d hd => isBlank_of_isBarred (h.2.1 d hd)
    rw [shownHost] at hc
    split at hc
    · simp only [around, List.mem_append, List.mem_singleton] at hc
      rcases hc with (rfl | hc) | rfl
      · decide
      · exact hplain c hc
      · decide
    · exact hplain c hc
  intro c hc
  rw [chars_eq, List.mem_append, List.mem_cons] at hc
  rcases hc with hc | rfl | hc
  · exact hshown c hc
  · decide
  · exact Text.isBlank_of_isDigit (Text.isDigit_of_mem_decimal hc)

/-- The last colon of a text that ends in a colon and a number is that one, so that reading comes
    to the checks on what is in front, with one pair of brackets off. -/
theorem ofText_of_trim {s : String} {port : Nat}
    (htrim : Text.trim s.toList = host ++ ':' :: Text.decimal port) (hport : port ≤ largestPort) :
    ofText s = ofChars (unbracket host) port := by
  have hcut : Text.cutLast? ':' (Text.trim s.toList) = some (host, Text.decimal port) := by
    refine Text.cutLast?_eq_some_iff.mpr ⟨htrim, fun hmem => ?_⟩
    exact absurd (Text.isDigit_of_mem_decimal hmem) (by decide)
  have hread : Text.readUnsigned? 65535 (Text.decimal port) = some port :=
    Text.readUnsigned?_decimal hport
  rw [ofText, hcut]
  simp only [hread]

/-- Reading the text form comes to the checks on the host with one pair of brackets off. -/
theorem ofText_text (h : e.Valid) : ofText e.text = ofChars (unbracket e.host.toList) e.port := by
  have htrim : Text.trim e.text.toList = shownHost e.host.toList ++ ':' :: Text.decimal e.port := by
    rw [text, String.toList_ofList, Text.trim_eq_self h.isBlank_of_mem_chars, chars_eq]
  rw [ofText_of_trim htrim h.2.2.2, unbracket_shownHost]

/-! ## The round trip -/

/-- The text form of an endpoint that can be had tells host and port exactly if the host is in no
    brackets of its own. -/
theorem ofText_text_eq_ok_iff (h : Accepted e) : ofText e.text = .ok e
    ↔ ¬ InBrackets e.host.toList := by
  have hvalid : e.Valid := accepted_iff_valid.mp h
  rw [ofText_text hvalid]
  constructor
  · rintro hread ⟨inner, hinner⟩
    have hplain : ∀ c ∈ inner, Text.isBlank c = false := by
      intro c hc
      refine isBlank_of_isBarred (hvalid.2.1 c ?_)
      rw [hinner]
      simp [around, hc]
    -- what is read is the host inside the brackets, which is shorter
    have hsame : e.host.toList = inner := by
      rw [hinner, unbracket_around] at hread
      obtain ⟨heq, -⟩ := ofChars_eq_ok_iff.mp hread
      rw [← heq, String.toList_ofList, Text.trim_eq_self hplain]
    have hlength : inner.length = (around inner).length :=
      congrArg List.length (hsame.symm.trans hinner)
    simp only [around, List.length_append, List.length_singleton] at hlength
    omega
  · intro hfree
    rw [unbracket_eq_self hfree]
    exact hvalid.ofChars_eq

/-- An IPv6 address from the text form. -/
def plainAddress : Endpoint := ⟨"::1", 3128⟩

/-- An address without brackets of its own is written in brackets and read back. -/
theorem ofText_text_eq_ok_iff_plainAddress :
    Accepted plainAddress ∧ ¬ InBrackets plainAddress.host.toList ∧ plainAddress.text = "[::1]:3128"
      ∧ ofText plainAddress.text = .ok plainAddress := by
  have haccepted : Accepted plainAddress :=
    .ofText (show ofText "[::1]:3128" = .ok plainAddress from rfl)
  have hfree : ¬ InBrackets plainAddress.host.toList := by
    rintro ⟨inner, hinner⟩
    exact absurd (congrArg List.head? hinner) (by simp [around, plainAddress])
  exact ⟨haccepted, hfree, rfl, (ofText_text_eq_ok_iff haccepted).mpr hfree⟩

/-- The same address with the brackets written into the host. -/
def ownBrackets : Endpoint := ⟨"[::1]", 3128⟩

/-- Two endpoints have one text form, and reading it gives the one without brackets.  Where the
    brackets hold nothing, the text form of an endpoint is even refused. -/
theorem ofText_text_ownBrackets :
    ofParts "[::1]" 3128 = .ok ownBrackets
      ∧ ownBrackets.text = plainAddress.text
      ∧ ofText ownBrackets.text = .ok plainAddress
      ∧ plainAddress ≠ ownBrackets
      ∧ ofParts "[]" 3128 = .ok ⟨"[]", 3128⟩
      ∧ ofText (text ⟨"[]", 3128⟩) = .error .emptyHost :=
  ⟨rfl, rfl, rfl, by decide, rfl, rfl⟩

end ProxyTrust.Endpoint
