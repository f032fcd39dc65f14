/-
  A host and a port, and the one text that joins them.

  The command line takes a host and a port apart, a document takes `host:port`.  Both are checked
  alike, but a text loses a pair of brackets first.

  1. **The joined text** — it is cut where it was joined, and the blanks before the host are gone
     by then, so that it comes to the same checks on the host with one pair of brackets off
     (`ofText_joined`).

  2. **Agreement** — a host in no brackets is hence taken alike on both ways.  One in brackets
     never is: it is kept with them on one way and without them on the other, and two hosts of
     different lengths are different.  So the two ways agree on it only by refusing it both.

  3. **Commands** — an endpoint can be read off the commands of a platform that take host and port
     apart, so that the commands on all platforms agree exactly if the endpoints do
     (`parts_and_text_agree_iff`).
-/
import ProxyTrust.Proofs.Endpoint.TextForm
import ProxyTrust.Proofs.Outcome
import ProxyTrust.SystemProxy

namespace ProxyTrust.Endpoint

variable {e f : Endpoint} {s inner : List Char} {host : String} {port : Nat}

/-! ## The joined text -/

/-- A host and a port in one text, with a colon between them. -/
def joined (host : String) (port : Nat) : String := host ++ ":" ++ String.ofList (Text.decimal port)

/-- The port number ends the text, and what is in front of the host is cut off. -/
theorem trim_joined (s : List Char) (port : Nat) :
    Text.trim (s ++ ':' :: Text.decimal port) = Text.trimStart s ++ ':' :: Text.decimal port := by
  rw [Text.trim, Text.trimStart_append_cons (by decide)]
  refine Text.trimEnd_eq_self fun c hc => ?_
  have hend : c ∈ (':' :: Text.decimal port).getLast? := by
    rwa [List.getLast?_append, Option.or_of_isSome (by simp)] at hc
  rcases List.mem_cons.mp (List.mem_of_getLast? hend) with rfl | hdigit
  · decide
  · exact Text.isBlank_of_isDigit (Text.isDigit_of_mem_decimal hdigit)

/-- Reading the joined text comes to the checks on the host with one pair of brackets off. -/
theorem ofText_joined (hport : port ≤ largestPort) :
    ofText (joined host port) = ofChars (unbracket (Text.trimStart host.toList)) port := by
  have hchars : (joined host port).toList = host.toList ++ ':' :: Text.decimal port := by
    simp [joined]
  refine ofText_of_trim ?_ hport
  rw [hchars, trim_joined]

/-! ## Agreement -/

/-- The checks do not see the blanks in front of a host. -/
theorem ofChars_trimStart (s : List Char) (port : Nat) :
    ofChars (Text.trimStart s) port = ofChars s port := by
  rw [ofChars, ofChars, Text.trim_trimStart]

/-- The checks refuse a host and a port exactly if the trimmed text is no host or the port is
    zero. -/
theorem toOption_ofChars_eq_none_iff :
    (ofChars s port).toOption = none ↔ ¬ (IsHost (Text.trim s) ∧ port ≠ 0) := by
  rw [← exists_ofChars_iff, Option.eq_none_iff_forall_ne_some, not_exists]
  exact forall_congr' fun e => not_congr toOption_eq_some_iff

/-- Brackets are no blanks. -/
theorem trim_around (inner : List Char) : Text.trim (around inner) = around inner := by
  refine (Text.trimmed_self ?_ ?_).trim_eq
  · intro c hc
    rw [around, List.append_assoc, List.singleton_append, List.head?_cons,
      Option.mem_some_iff] at hc
    rw [← hc]
    decide
  · intro c hc
    rw [around, List.getLast?_concat, Option.mem_some_iff] at hc
    rw [← hc]
    decide

/-- Text in brackets is a host if nothing in it is barred, also if there is nothing in it. -/
theorem isHost_around_iff : IsHost (around inner) ↔ ∀ c ∈ inner, isBarred c = false := by
  constructor
  · intro h c hc
    exact h.2 c (by simp [around, hc])
  · intro h
    refine ⟨by simp [around], fun c hc => ?_⟩
    simp only [around, List.mem_append, List.mem_singleton] at hc
    rcases hc with (rfl | hc) | rfl
    · decide
    · exact h c hc
    · decide

/-- A host is never the same with a pair of brackets and without it. -/
theorem ofChars_around_ne (haround : ofChars (around inner) port = .ok e) :
    ofChars inner port ≠ .ok e := by
  intro hinner
  obtain ⟨hkept, -⟩ := ofChars_eq_ok_iff.mp haround
  obtain ⟨hcut, -⟩ := ofChars_eq_ok_iff.mp hinner
  have hsame : Text.trim inner = around inner := by
    have hhost := congrArg (fun f : Endpoint => f.host.toList) (hcut.trans hkept.symm)
    simpa only [String.toList_ofList, trim_around] using hhost
  have hlength := congrArg List.length hsame
  have hle := Text.length_trim_le inner
  simp only [around, List.length_append, List.length_singleton] at hlength
  omega

/-- So a host is taken alike with and without its brackets only where it is refused both times. -/
theorem toOption_ofChars_around_eq_iff :
    (ofChars (around inner) port).toOption = (ofChars inner port).toOption
      ↔ (ofChars (around inner) port).toOption = none ∧ (ofChars inner port).toOption = none := by
  constructor
  · intro h
    cases hinner : (ofChars inner port).toOption with
    | none => exact ⟨h.trans hinner, rfl⟩
    | some e =>
      have haround : ofChars (around inner) port = .ok e := toOption_eq_some_iff.mp (h.trans hinner)
      exact absurd (toOption_eq_some_iff.mp hinner) (ofChars_around_ne haround)
  · rintro ⟨hnone, hnone'⟩
    rw [hnone, hnone']

/-- The host, the blanks in front of it aside, stands in a pair of brackets, and in them is
    nothing at all or again a host, blanks around it aside; and there is a port. -/
structure Apart (host : String) (port : Nat) : Prop where
  brackets : ∃ inner, Text.trimStart host.toList = around inner
    ∧ (inner = [] ∨ IsHost (Text.trim inner))
  port_ne : port ≠ 0

/-- A host in brackets is refused on both ways exactly if what is in them is something, but no
    host. -/
theorem refused_around_iff :
    (ofChars (around inner) port).toOption = none ∧ (ofChars inner port).toOption = none
      ↔ ¬ ((inner = [] ∨ IsHost (Text.trim inner)) ∧ port ≠ 0) := by
  have hinside : IsHost (around inner) → inner = [] ∨ IsHost (Text.trim inner) := by
    intro h
    by_cases hempty : inner = []
    · exact .inl hempty
    · have hplain := isHost_around_iff.mp h
      have htrim : Text.trim inner = inner :=
        Text.trim_eq_self fun c hc => isBlank_of_isBarred (hplain c hc)
      rw [htrim]
      exact .inr ⟨hempty, hplain⟩
  have hnothing : inner = [] → IsHost (around inner) := by
    rintro rfl
    exact isHost_around_iff.mpr fun c hc => absurd hc List.not_mem_nil
  rw [toOption_ofChars_eq_none_iff, toOption_ofChars_eq_none_iff, trim_around]
  grind

/-- Taken apart and taken joined, a host and a port make the same endpoint, or none at all, unless
    the host stands in brackets. -/
theorem toOption_ofParts_eq_iff (hport : port ≤ largestPort) :
    (ofParts host port).toOption = (ofText (joined host port)).toOption ↔ ¬ Apart host port := by
  rw [ofText_joined hport, ofParts, ← ofChars_trimStart host.toList]
  by_cases hbrackets : InBrackets (Text.trimStart host.toList)
  -- in no brackets nothing is taken off, and the two ways are the same
  case neg =>
    rw [unbracket_eq_self hbrackets]
    refine iff_of_true rfl fun hapart => hbrackets ?_
    obtain ⟨inner, hinner, -⟩ := hapart.brackets
    exact ⟨inner, hinner⟩
  obtain ⟨inner, hinner⟩ := hbrackets
  -- in brackets they agree only where both refuse
  rw [hinner, unbracket_around, toOption_ofChars_around_eq_iff, refused_around_iff]
  refine not_congr ⟨?_, ?_⟩
  · rintro ⟨hinside, hne⟩
    exact ⟨⟨inner, hinner, hinside⟩, hne⟩
  · rintro ⟨⟨found, hfound, hinside⟩, hne⟩
    obtain rfl : found = inner := by
      rw [← unbracket_around found, ← hfound, hinner, unbracket_around]
    exact ⟨hinside, hne⟩

/-! ## Commands -/

/-- The commands that point the proxy setting at what was read, if it is an endpoint. -/
def commandsOn (platform : Platform) (read : Except Fault Endpoint) :
    Option (Except ProxyTrust.Fault (List Command)) :=
  read.toOption.map (SystemProxy.enableCommands platform)

/-- On macOS every command has the host and the port in two words of its own. -/
theorem enableCommands_macos_inj
    (h : SystemProxy.enableCommands .macos e = SystemProxy.enableCommands .macos f) : e = f := by
  obtain ⟨host, port⟩ := e
  obtain ⟨host', port'⟩ := f
  have hwords := List.cons.inj (Except.ok.inj h)
  simp only [Command.mk.injEq, List.cons.injEq, true_and, and_true] at hwords
  obtain ⟨⟨hhost, hnumber⟩, -⟩ := hwords
  rw [hhost, Text.decimal_injective (String.ofList_inj.mp hnumber)]

/-- The commands on all platforms agree exactly if both are refused, or both are the same
    endpoint. -/
theorem commandsOn_eq_iff {read read' : Except Fault Endpoint} :
    (∀ platform, commandsOn platform read = commandsOn platform read')
      ↔ read.toOption = read'.toOption := by
  constructor
  · intro h
    have hmac := h .macos
    rw [commandsOn, commandsOn] at hmac
    exact Option.map_inj_right (fun _ _ => enableCommands_macos_inj) |>.mp hmac
  · intro h platform
    rw [commandsOn, commandsOn, h]

/-- A host and a port come to the same endpoint, or to none, from the command line and from the
    text that joins them, exactly if the host does not stand in brackets; and exactly then the
    commands are the same on every platform. -/
theorem parts_and_text_agree_iff (hport : port ≤ largestPort) :
    ((ofParts host port).toOption = (ofText (joined host port)).toOption ↔ ¬ Apart host port)
    ∧ ((∀ platform, commandsOn platform (ofParts host port)
      = commandsOn platform (ofText (joined host port)))
        ↔ ¬ Apart host port) := by
  refine ⟨toOption_ofParts_eq_iff hport, ?_⟩
  rw [commandsOn_eq_iff, toOption_ofParts_eq_iff hport]

/-- An address without brackets is taken alike on both ways, whatever blanks are around it. -/
theorem parts_and_text_agree_iff_blanks :
    3128 ≤ largestPort ∧ ¬ Apart " ::1\t" 3128
      ∧ (ofParts " ::1\t" 3128).toOption = (ofText (joined " ::1\t" 3128)).toOption := by
  have hport : 3128 ≤ largestPort := by decide
  have hbare : ¬ Apart " ::1\t" 3128 := by
    rintro ⟨⟨inner, hinner, -⟩, -⟩
    have hhead : some ':' = some '[' := congrArg List.head? hinner
    exact absurd hhead (by decide)
  exact ⟨hport, hbare, (parts_and_text_agree_iff hport).1.mpr hbare⟩

/-- An address in brackets is two hosts: the one from the command line keeps them, and the
    commands of macOS differ.  Empty brackets are accepted on one way alone, and so are brackets
    with a blank inside. -/
theorem bracketed_host_told_apart :
    ofParts "[::1]" 3128 = .ok ownBrackets
      ∧ ofText (joined "[::1]" 3128) = .ok plainAddress
      ∧ (ofParts "[::1]" 3128).toOption ≠ (ofText (joined "[::1]" 3128)).toOption
      ∧ commandsOn .macos (ofParts "[::1]" 3128) ≠ commandsOn .macos (ofText (joined "[::1]" 3128))
      ∧ ofParts "[]" 3128 = .ok ⟨"[]", 3128⟩ ∧ ofText (joined "[]" 3128) = .error .emptyHost
      ∧ ofParts "[ ::1]" 3128 = .error (.barredHost "[ ::1]")
        ∧ ofText (joined "[ ::1]" 3128) = .ok plainAddress := by
  have hparts : ofParts "[::1]" 3128 = .ok ownBrackets := rfl
  have htext : ofText (joined "[::1]" 3128) = .ok plainAddress := rfl
  have hne : ownBrackets ≠ plainAddress := by decide
  refine ⟨hparts, htext, ?_, ?_, rfl, rfl, rfl, rfl⟩
  · rw [hparts, htext]
    exact fun heq => hne (Option.some.inj heq)
  · rw [hparts, htext]
    exact fun heq => hne (enableCommands_macos_inj (Option.some.inj heq))

end ProxyTrust.Endpoint
