/-
  The grammar of endpoint texts.

  1. **Parts** — `Parts text name port` says what the text is made of, without taking it apart:
     blanks around all of it, a host, its last colon and a port number; inside the host at most
     one pair of brackets, and blanks around the name in it.

  2. **Endpoints and complaints** — `Names` is the grammar of the texts that name an endpoint, and
     `Complaint` gives for every other text the message about the first rule that it breaks.  Both
     are relations on texts that mention no function of the reader, so that they can be read on
     their own.

  3. **Reading** — the parts decide what reading comes to (`Parts.ofText_eq`), and every text
     names an endpoint or draws a complaint (`names_or_complaint`).  As reading has one outcome,
     it accepts exactly the grammar and words exactly these complaints: `ofText_follows_grammar`.
     So neither direction has to take a successful reading apart.
-/
import ProxyTrust.Proofs.Endpoint.TextForm

namespace ProxyTrust.Endpoint

open Text (Spells Trimmed)

variable {text : String} {s host inner name row : List Char} {port : Nat} {e : Endpoint}
  {message : String}

/-! ## Parts -/

/-- The host without one pair of brackets around it. -/
inductive Unbracketed : List Char → List Char → Prop
  | bare {host : List Char} (hfree : ¬ InBrackets host) : Unbracketed host host
  | pair {inner : List Char} : Unbracketed (around inner) inner

/-- The name in a host is what is left when a pair of brackets is taken off. -/
theorem unbracket_eq_iff : unbracket host = inner ↔ Unbracketed host inner := by
  constructor
  · rintro rfl
    by_cases hbrackets : InBrackets host
    · obtain ⟨inner, rfl⟩ := hbrackets
      rw [unbracket_around]
      exact .pair
    · rw [unbracket_eq_self hbrackets]
      exact .bare hbrackets
  · intro h
    cases h with
    | bare hfree => exact unbracket_eq_self hfree
    | pair => exact unbracket_around inner

/-- The host and the row after the last colon of a text, blanks at its ends aside. -/
structure Cut (s host row : List Char) : Prop where
  trimmed : Trimmed s (host ++ ':' :: row)
  last : ':' ∉ row

/-- A text is cut at its last colon, wherever its blanks are. -/
theorem cutLast?_trim_iff : Text.cutLast? ':' (Text.trim s) = some (host, row)
    ↔ Cut s host row := by
  rw [Text.cutLast?_eq_some_iff]
  constructor
  · rintro ⟨htrim, hlast⟩
    exact ⟨Text.trim_eq_iff.mp htrim, hlast⟩
  · rintro ⟨htrimmed, hlast⟩
    exact ⟨htrimmed.trim_eq, hlast⟩

/-- A text with a colon and a port number: the name of its host and the port. -/
structure Parts (s name : List Char) (port : Nat) : Prop where
  parts : ∃ host row inner, Cut s host row ∧ Spells row port ∧ Unbracketed host inner
    ∧ Trimmed inner name
  bound : port ≤ largestPort

/-! ## Endpoints and complaints -/

/-- A character that may stand in the name of a host. -/
def Plain (c : Char) : Prop := Text.isBlank c = false ∧ c ≠ '\'' ∧ c ≠ '"'

/-- The characters that no check bars. -/
theorem isBarred_eq_false_iff {c : Char} : isBarred c = false ↔ Plain c := by
  rw [isBarred, Bool.or_eq_false_iff, Bool.or_eq_false_iff, beq_eq_false_iff_ne,
    beq_eq_false_iff_ne, and_assoc]
  exact Iff.rfl

/-- The text names the endpoint. -/
structure Names (s : List Char) (e : Endpoint) : Prop where
  parts : Parts s e.host.toList e.port
  nonempty : e.host.toList ≠ []
  plain : ∀ c ∈ e.host.toList, Plain c
  positive : 1 ≤ e.port

/-- The text names no endpoint, and the message tells the first rule that it breaks. -/
inductive Complaint (text : String) : String → Prop
  | noColon (hnone : ':' ∉ text.toList) : Complaint text ("'" ++ text ++ "' must be HOST:PORT")
  | badPort {host row : List Char} (hcut : Cut text.toList host row)
      (hport : ∀ n, Spells row n → largestPort < n) :
      Complaint text ("invalid port '" ++ String.ofList row ++ "' in '" ++ text ++ "'")
  | emptyHost {port : Nat} (hparts : Parts text.toList [] port) :
      Complaint text "proxy host cannot be empty"
  | barredHost {name : List Char} {port : Nat} (hparts : Parts text.toList name port)
      (hbarred : ∃ c ∈ name, ¬ Plain c) :
      Complaint text ("proxy host '" ++ String.ofList name ++ "' contains invalid characters")
  | zeroPort {name : List Char} (hparts : Parts text.toList name 0) (hne : name ≠ [])
      (hplain : ∀ c ∈ name, Plain c) :
      Complaint text "proxy port must be between 1 and 65535"

/-! ## Reading -/

/-- A text with its parts is read as they are checked. -/
theorem Parts.ofText_eq (h : Parts text.toList name port) :
    ∃ inner, Text.trim inner = name ∧ ofText text = ofChars inner port := by
  obtain ⟨host, row, inner, hcut, hspells, hhost, hname⟩ := h.parts
  refine ⟨inner, hname.trim_eq, ?_⟩
  have hport : Text.readUnsigned? 65535 row = some port :=
    Text.readUnsigned?_eq_some_iff.mpr ⟨hspells, h.bound⟩
  rw [ofText, cutLast?_trim_iff.mpr hcut]
  simp only [hport, unbracket_eq_iff.mpr hhost]

/-- A text of the grammar is read as the endpoint that it names. -/
theorem Names.ofText_eq (h : Names text.toList e) : ofText text = .ok e := by
  obtain ⟨inner, hname, hread⟩ := h.parts.ofText_eq
  have hplain : ∀ c ∈ e.host.toList, isBarred c = false :=
    fun c hc => isBarred_eq_false_iff.mpr (h.plain c hc)
  rw [hread, ofChars_eq_ok_iff, hname]
  exact ⟨by rw [String.ofList_toList], h.nonempty, hplain, Nat.one_le_iff_ne_zero.mp h.positive⟩

/-- A text that breaks a rule is refused with the message about the first one that it breaks.  One
    case for each rule: the rules before it hold, so that reading comes to the check that it
    fails. -/
theorem Complaint.mapError_ofText (h : Complaint text message) :
    (ofText text).mapError Fault.message = .error message := by
  cases h with
  | noColon hnone =>
    have hgone : ':' ∉ Text.trim text.toList := by
      rwa [(Text.trimmed_trim text.toList).mem_iff (by decide)]
    rw [ofText, Text.cutLast?_eq_none_iff.mpr hgone]
    rfl
  | @badPort host row hcut hport =>
    -- the row spells no number that is a port
    have hnone : Text.readUnsigned? 65535 row = none := by
      refine Option.eq_none_iff_forall_ne_some.mpr fun n hread => ?_
      obtain ⟨hspells, hle⟩ := Text.readUnsigned?_eq_some_iff.mp hread
      exact absurd hle (Nat.not_le.mpr (hport n hspells))
    rw [ofText, cutLast?_trim_iff.mpr hcut]
    simp only [hnone]
    rfl
  | emptyHost hparts =>
    obtain ⟨inner, hname, hread⟩ := hparts.ofText_eq
    rw [hread, ofChars, hname]
    rfl
  | @barredHost name port hparts hbarred =>
    -- a barred character is looked for before the port is, and an empty host before both
    obtain ⟨inner, hname, hread⟩ := hparts.ofText_eq
    obtain ⟨c, hc, hbar⟩ := hbarred
    have hany : name.any isBarred = true := by
      refine List.any_eq_true.mpr ⟨c, hc, ?_⟩
      rwa [← isBarred_eq_false_iff, Bool.not_eq_false] at hbar
    have hne : ¬ name.isEmpty = true := by
      rw [List.isEmpty_iff]
      exact List.ne_nil_of_mem hc
    rw [hread, ofChars, hname]
    simp only [if_neg hne, if_pos hany]
    rfl
  | @zeroPort name hparts hnonempty hplain =>
    obtain ⟨inner, hname, hread⟩ := hparts.ofText_eq
    have hany : ¬ name.any isBarred = true := by
      intro hany
      obtain ⟨c, hc, hbar⟩ := List.any_eq_true.mp hany
      rw [isBarred_eq_false_iff.mpr (hplain c hc)] at hbar
      cases hbar
    have hne : ¬ name.isEmpty = true := by
      rwa [List.isEmpty_iff]
    rw [hread, ofChars, hname]
    simp only [if_neg hne, if_neg hany]
    rfl

/-- Every text names an endpoint or draws a complaint. -/
theorem names_or_complaint (text : String) :
    (∃ e, Names text.toList e) ∨ ∃ message, Complaint text message := by
  by_cases hcolon : ':' ∈ text.toList
  case neg => exact .inr ⟨_, .noColon hcolon⟩
  have hmem : ':' ∈ Text.trim text.toList := by
    rwa [(Text.trimmed_trim text.toList).mem_iff (by decide)]
  obtain ⟨⟨host, row⟩, hcutLast⟩ := Option.ne_none_iff_exists'.mp
    (fun hnone => Text.cutLast?_eq_none_iff.mp hnone hmem)
  have hcut := cutLast?_trim_iff.mp hcutLast
  by_cases hport : ∃ n, Spells row n ∧ n ≤ largestPort
  case neg =>
    refine .inr ⟨_, .badPort hcut fun n hspells => ?_⟩
    exact Nat.not_le.mp fun hle => hport ⟨n, hspells, hle⟩
  obtain ⟨port, hspells, hbound⟩ := hport
  -- the rest goes by the name of the host
  obtain ⟨name, hname⟩ : ∃ name, Trimmed (unbracket host) name := ⟨_, Text.trimmed_trim _⟩
  have hparts : Parts text.toList name port :=
    ⟨⟨host, row, unbracket host, hcut, hspells, unbracket_eq_iff.mp rfl, hname⟩, hbound⟩
  by_cases hempty : name = []
  case pos => exact .inr ⟨_, .emptyHost (hempty ▸ hparts)⟩
  by_cases hplain : ∀ c ∈ name, Plain c
  case neg =>
    have hbarred : ∃ c ∈ name, ¬ Plain c := by simpa using hplain
    exact .inr ⟨_, .barredHost hparts hbarred⟩
  by_cases hzero : port = 0
  case pos => exact .inr ⟨_, .zeroPort (hzero ▸ hparts) hempty hplain⟩
  have hhost : (String.ofList name).toList = name := String.toList_ofList
  refine .inl ⟨⟨String.ofList name, port⟩, ?_, ?_, ?_, Nat.one_le_iff_ne_zero.mpr hzero⟩
  · rwa [hhost]
  · rwa [hhost]
  · rwa [hhost]

/-- A text is read as an endpoint exactly if the grammar has it name that endpoint, and for every
    other text reading ends with the message about the first rule that it breaks. -/
theorem ofText_follows_grammar (text : String) :
    (∀ e, ofText text = .ok e ↔ Names text.toList e)
    ∧ ∀ message, (ofText text).mapError Fault.message = .error message
      ↔ Complaint text message := by
  constructor
  · intro e
    refine ⟨fun hok => ?_, Names.ofText_eq⟩
    -- every text names an endpoint or draws a complaint, and reading has one outcome
    obtain ⟨found, hfound⟩ | ⟨message, hcomplaint⟩ := names_or_complaint text
    · obtain rfl := Except.ok.inj (hok.symm.trans hfound.ofText_eq)
      exact hfound
    · have herror := hcomplaint.mapError_ofText
      rw [hok] at herror
      cases herror
  · intro message
    refine ⟨fun herror => ?_, Complaint.mapError_ofText⟩
    obtain ⟨found, hfound⟩ | ⟨other, hcomplaint⟩ := names_or_complaint text
    · rw [hfound.ofText_eq] at herror
      cases herror
    · obtain rfl := Except.error.inj (herror.symm.trans hcomplaint.mapError_ofText)
      exact hcomplaint

example : ofText " [ ::1 ]:+0080\t" = .ok ⟨"::1", 80⟩ := rfl

end ProxyTrust.Endpoint
