/-
  The text form of an endpoint, read again and again.

  1. **Pairs of brackets** — `pairs` counts the brackets around a host, pair by pair, from the
     rows of them at its two ends.  A pair more around a host is one more, and only a host in
     brackets has any.

  2. **One reading** — reading the text form gives the endpoint itself, or takes one pair off, or
     fails because nothing is left inside it (`Reread`, one case each).  The port is the same in
     every case.

  3. **Many readings** — so every reading but the last one takes a pair off, and there are no more
     readings than pairs: an induction on their number.  `rereading_takes_brackets_off` is the
     main statement.
-/
import ProxyTrust.Proofs.Endpoint.TextForm
import ProxyTrust.Proofs.Outcome

namespace ProxyTrust.Endpoint

variable {e f : Endpoint} {s host inner : List Char} {c d : Char} {n : Nat}

/-! ## Pairs of brackets -/

/-- The length of the row of one character with which a text begins. -/
def leading (c : Char) (s : List Char) : Nat := (s.takeWhile (· == c)).length

/-- The number of pairs of brackets around a host. -/
def pairs (host : List Char) : Nat := min (leading '[' host) (leading ']' host.reverse)

theorem leading_cons_self (c : Char) (s : List Char) : leading c (c :: s) = leading c s + 1 := by
  rw [leading, List.takeWhile_cons, if_pos (beq_self_eq_true c)]
  rfl

/-- Another character at the end does not make the row longer. -/
theorem leading_append_singleton (h : d ≠ c) (s : List Char) :
    leading c (s ++ [d]) = leading c s := by
  induction s with
  | nil => simp [leading, h]
  | cons a s ih =>
    rw [List.cons_append]
    by_cases ha : a = c
    · rw [ha, leading_cons_self, leading_cons_self, ih]
    · simp [leading, ha]

theorem begins_of_leading (h : leading c s ≠ 0) : ∃ rest, s = c :: rest := by
  cases s with
  | nil => exact absurd rfl h
  | cons a rest =>
    by_cases ha : a = c
    · exact ⟨rest, by rw [ha]⟩
    · exact absurd (by simp [leading, ha]) h

/-- A pair of brackets around a host is one pair more. -/
theorem pairs_around (inner : List Char) : pairs (around inner) = pairs inner + 1 := by
  have hfront : leading '[' (around inner) = leading '[' inner + 1 := by
    show leading '[' ('[' :: (inner ++ [']'])) = _
    rw [leading_cons_self, leading_append_singleton (by decide)]
  have hback : leading ']' (around inner).reverse = leading ']' inner.reverse + 1 := by
    have hreverse : (around inner).reverse = ']' :: (inner.reverse ++ ['[']) := by simp [around]
    rw [hreverse, leading_cons_self, leading_append_singleton (by decide)]
  rw [pairs, pairs, hfront, hback]
  omega

/-- A host with at least one pair stands in brackets. -/
theorem inBrackets_of_pairs (h : pairs host ≠ 0) : InBrackets host := by
  have hboth : leading '[' host ≠ 0 ∧ leading ']' host.reverse ≠ 0 := by
    rw [pairs] at h
    omega
  obtain ⟨rest, hrest⟩ := begins_of_leading hboth.1
  obtain ⟨back, hreverse⟩ := begins_of_leading hboth.2
  have hlast : host.getLast? = some ']' := by
    rw [← List.head?_reverse, hreverse]
    rfl
  obtain ⟨front, hfront⟩ := List.getLast?_eq_some_iff.mp hlast
  rw [hrest] at hfront
  -- one character is not both brackets
  cases front with
  | nil => exact absurd (List.cons.inj hfront).1 (by decide)
  | cons a inner =>
    obtain ⟨rfl, hinner⟩ := List.cons.inj hfront
    exact ⟨inner, by rw [hrest, hinner]; rfl⟩

/-! ## One reading -/

/-- What reading the text form of an endpoint comes to. -/
inductive Reread (e : Endpoint) : Except Fault Endpoint → Prop
  | same (hfree : ¬ InBrackets e.host.toList) : Reread e (.ok e)
  | nothing (hhost : e.host.toList = around []) : Reread e (.error .emptyHost)
  | inside {inner : List Char} (hhost : e.host.toList = around inner) (hne : inner ≠ []) :
      Reread e (.ok ⟨String.ofList inner, e.port⟩)

/-- What stands in the brackets of a valid host holds no barred character either. -/
theorem Valid.plain_inside (h : e.Valid) (hhost : e.host.toList = around inner) :
    ∀ c ∈ inner, isBarred c = false := by
  intro c hc
  refine h.2.1 c ?_
  rw [hhost]
  simp [around, hc]

/-- A host in no brackets is read back. -/
theorem Valid.ofText_free (h : e.Valid) (hfree : ¬ InBrackets e.host.toList) :
    ofText e.text = .ok e := by
  rw [ofText_text h, unbracket_eq_self hfree, h.ofChars_eq]

/-- A host in brackets is read back without them, unless nothing is left. -/
theorem Valid.ofText_inside (h : e.Valid) (hhost : e.host.toList = around inner)
    (hne : inner ≠ []) : ofText e.text = .ok ⟨String.ofList inner, e.port⟩ := by
  rw [ofText_text h, hhost, unbracket_around]
  exact ofChars_eq_ok hne (h.plain_inside hhost) (Nat.one_le_iff_ne_zero.mp h.2.2.1)

/-- The text form of a valid endpoint is read in one of the three ways. -/
theorem Valid.reread (h : e.Valid) : Reread e (ofText e.text) := by
  by_cases hbrackets : InBrackets e.host.toList
  case neg =>
    rw [h.ofText_free hbrackets]
    exact .same hbrackets
  obtain ⟨inner, hhost⟩ := hbrackets
  by_cases hempty : inner = []
  · rw [hempty] at hhost
    rw [ofText_text h, hhost, unbracket_around]
    exact .nothing hhost
  · rw [h.ofText_inside hhost hempty]
    exact .inside hhost hempty

/-- What is read is valid again, with the same port. -/
theorem Valid.reread_ok (h : e.Valid) (hread : ofText e.text = .ok f) :
    f.Valid ∧ f.port = e.port := by
  rw [ofText_text h] at hread
  refine ⟨valid_of_ofChars h.2.2.2 hread, ?_⟩
  obtain ⟨rfl, -⟩ := ofChars_eq_ok_iff.mp hread
  rfl

/-- The host inside the brackets makes another endpoint, because it is shorter. -/
theorem ne_inside (hhost : e.host.toList = around inner) :
    (⟨String.ofList inner, e.port⟩ : Endpoint) ≠ e := by
  intro heq
  have hinner : inner = around inner := by
    rw [← hhost, ← heq, String.toList_ofList]
  have hlength := congrArg List.length hinner
  simp only [around, List.length_append, List.length_singleton] at hlength
  omega

/-! ## Many readings -/

/-- The endpoint after its text form was read, and that of what was read, and so on. -/
def rereads : Nat → Endpoint → Except Fault Endpoint
  | 0, e => .ok e
  | n + 1, e => ofText e.text >>= rereads n

theorem rereads_succ_of_ok (hread : ofText e.text = .ok f) (n : Nat) :
    rereads (n + 1) e = rereads n f := by
  rw [rereads, hread]
  rfl

/-- However often it is read again, the port stays.  By induction on the readings. -/
theorem port_of_rereads (h : e.Valid) (hread : rereads n e = .ok f) : f.port = e.port := by
  induction n generalizing e with
  | zero =>
    obtain rfl := Except.ok.inj hread
    rfl
  | succ n ih =>
    obtain ⟨g, hfirst, hlater⟩ := bind_eq_ok_iff.mp hread
    obtain ⟨hvalid, hport⟩ := h.reread_ok hfirst
    rw [ih hvalid hlater, hport]

/-- An endpoint that is read as itself, or the fault of a host of nothing. -/
inductive Settled : Except Fault Endpoint → Prop
  | itself {f : Endpoint} (hread : ofText f.text = .ok f) : Settled (.ok f)
  | nothing : Settled (.error .emptyHost)

/-- Each reading takes a pair of brackets off, so that as many readings as there are pairs settle
    it. -/
theorem settled_of_pairs (h : e.Valid) (hpairs : pairs e.host.toList = n) :
    ∃ k ≤ n, Settled (rereads k e) := by
  induction n generalizing e with
  | zero =>
    -- no pair is left, so that the host is in no brackets
    have hfree : ¬ InBrackets e.host.toList := by
      rintro ⟨inner, hhost⟩
      rw [hhost, pairs_around] at hpairs
      omega
    exact ⟨0, Nat.le_refl 0, .itself (h.ofText_free hfree)⟩
  | succ n ih =>
    have hread := h.reread
    generalize hresult : ofText e.text = result at hread
    cases hread with
    | same hfree => exact absurd (inBrackets_of_pairs (by omega)) hfree
    | nothing hhost =>
      -- nothing was in the brackets, and reading fails
      refine ⟨1, by omega, ?_⟩
      rw [rereads, hresult]
      exact .nothing
    | @inside inner hhost hne =>
      -- one pair less, and one reading less to go
      have hinner : pairs inner = n := by
        rw [hhost, pairs_around] at hpairs
        omega
      have hvalid := (h.reread_ok hresult).1
      obtain ⟨k, hk, hsettled⟩ := ih hvalid (by rw [String.toList_ofList, hinner])
      refine ⟨k + 1, by omega, ?_⟩
      rwa [rereads_succ_of_ok hresult]

theorem toList_eq_around_nil : e.host.toList = around [] ↔ e.host = "[]" := by
  rw [← String.toList_inj]
  exact Iff.rfl

/-- Reading the text form of an endpoint that can be had gives the endpoint exactly if its host is
    in no brackets of its own, fails for want of a host exactly if there is nothing in its
    brackets, and else gives the host inside them.  Reading on, the text form of what was read and
    so on, comes within as many readings as the host has pairs of brackets to an endpoint that is
    read as itself or to that failure, and the port is the same all along. -/
theorem rereading_takes_brackets_off (h : Accepted e) :
    (ofText e.text = .ok e ↔ ¬ ∃ inner, e.host.toList = around inner)
    ∧ ((ofText e.text).mapError Fault.message = .error "proxy host cannot be empty" ↔ e.host = "[]")
    ∧ (∀ inner, inner ≠ [] → e.host.toList = around inner →
        ofText e.text = .ok ⟨String.ofList inner, e.port⟩)
    ∧ (∃ n ≤ pairs e.host.toList, (∃ f, rereads n e = .ok f ∧ ofText f.text = .ok f)
        ∨ (rereads n e).mapError Fault.message = .error "proxy host cannot be empty")
    ∧ ∀ n f, rereads n e = .ok f → f.port = e.port := by
  have hvalid : e.Valid := accepted_iff_valid.mp h
  have hread := hvalid.reread
  refine ⟨?_, ?_, ?_, ?_, fun n f hf => port_of_rereads hvalid hf⟩
  · generalize ofText e.text = result at hread
    cases hread with
    | same hfree => exact iff_of_true rfl hfree
    | nothing hhost => exact iff_of_false (fun heq => nomatch heq) (not_not_intro ⟨_, hhost⟩)
    | inside hhost _ =>
      exact iff_of_false (fun heq => ne_inside hhost (Except.ok.inj heq)) (not_not_intro ⟨_, hhost⟩)
  · -- reading fails exactly if nothing is in the brackets
    rw [← toList_eq_around_nil]
    generalize ofText e.text = result at hread
    cases hread with
    | same hfree => exact iff_of_false (fun heq => nomatch heq) fun hhost => hfree ⟨_, hhost⟩
    | nothing hhost => exact iff_of_true rfl hhost
    | @inside inner hhost hne =>
      refine iff_of_false (fun heq => nomatch heq) fun hempty => hne ?_
      rw [← unbracket_around inner, ← hhost, hempty, unbracket_around]
  · intro inner hne hhost
    exact hvalid.ofText_inside hhost hne
  · -- after as many readings as there are pairs, or fewer, it comes to an end
    obtain ⟨n, hn, hsettled⟩ := settled_of_pairs hvalid rfl
    refine ⟨n, hn, ?_⟩
    generalize rereads n e = result at hsettled
    cases hsettled with
    | itself hf => exact .inl ⟨_, rfl, hf⟩
    | nothing => exact .inr rfl

/-- An address in two pairs of brackets. -/
def twoPairs : Endpoint := ⟨"[[::1]]", 3128⟩

/-- Two readings take the two pairs off. -/
theorem rereading_takes_brackets_off_twoPairs :
    Accepted twoPairs ∧ pairs twoPairs.host.toList = 2 ∧ ofText twoPairs.text ≠ .ok twoPairs
      ∧ rereads 2 twoPairs = .ok plainAddress ∧ plainAddress.port = twoPairs.port := by
  have haccepted : Accepted twoPairs :=
    .ofParts (by decide) (show ofParts "[[::1]]" 3128 = .ok twoPairs from rfl)
  have htwice : rereads 2 twoPairs = .ok plainAddress := rfl
  obtain ⟨hsame, -, -, -, hport⟩ := rereading_takes_brackets_off haccepted
  have hbrackets : twoPairs.host.toList = around "[::1]".toList := rfl
  exact ⟨haccepted, rfl, fun heq => hsame.mp heq ⟨_, hbrackets⟩, htwice,
    hport 2 plainAddress htwice⟩

end ProxyTrust.Endpoint
