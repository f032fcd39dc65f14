/-
  What a controller still hands over once its token has fired.

  1. **Both runners** — a script, or the programs of a system of which nothing is assumed.

  2. **Changes and requests** — the token may fire before an operation, while a key is made, or
     between two commands; all that is known is that it has fired when some call is due.
     `row_ends_at_first_wait_after_cancellation` says for every change, in both its forms, and for
     every request to a controller what is still handed over: the row ends with the first command
     whose program has not ended when the wait for it begins.

  3. **Calls that are made after that** — over a script a row of five commands is cut off at once.
     Over programs that all end in time it goes through to its end, so that the condition cannot be
     left out.  And there is such a call: a certificate is copied although the token had fired
     before the operation.
-/
import ProxyTrust.Proofs.Command.Cancellation
import ProxyTrust.Proofs.Controller.Requests

namespace ProxyTrust

/-! ## Both runners -/

/-- The runners that commands are handed to: a script, or the programs of some system. -/
inductive RunnerKind where
  | scripted
  | real (launch : Host.Launch)

namespace RunnerKind

/-- What a runner works on. -/
def State : RunnerKind → Type
  | scripted => Script
  | real _ => Host

/-- The runner under a token. -/
def tokenRunner : (kind : RunnerKind) → TokenRunner kind.State
  | scripted => Script.tokenRunner
  | real launch => Host.tokenRunner launch

/-- The runner under a token, with a log of its calls. -/
def watched (kind : RunnerKind) (token : Token) : Runner ((kind.State × Nat) × List Call) :=
  (kind.tokenRunner.under token).logged

end RunnerKind

/-! ## Changes -/

variable {σ : Type} {token : Token} {due : Nat}

/-- What a change comes to whose token has fired when call number `due` is due.  A row that could
    not be built is no call at all. -/
def TokenRunner.Ends (r : TokenRunner σ) (token : Token) (s : σ) (due : Nat)
    (built : Except Fault (List Command)) (calls : List Call) (outcome : Except Fault Bool) :
      Prop :=
  match built with
  | .error fault => calls = [] ∧ outcome = .error fault
  | .ok commands => Runner.EndsWithin r token s due commands calls outcome

/-- A change, in both its forms, ends as its row does. -/
theorem Change.ends (r : TokenRunner σ) (hfired : token.Fired due) (platform : Platform)
    (change : Change) (s : σ) :
    ∃ calls outcome t,
      change.attempt (r.under token).logged platform ((s, 0), []) = (outcome, t, calls)
      ∧ change.perform (r.under token).logged platform ((s, 0), [])
        = (Runner.settle outcome, t, calls)
      ∧ r.Ends token s due (change.commands platform) calls outcome := by
  cases hbuilt : change.commands platform with
  | error fault =>
    have hattempt : change.attempt (r.under token).logged platform ((s, 0), [])
        = (.error fault, (s, 0), []) := by
      rw [Change.attempt_eq, hbuilt, SystemProxy.runBuilt]
    refine ⟨[], .error fault, (s, 0), hattempt, ?_, rfl, rfl⟩
    rw [Change.perform_eq, hattempt]
  | ok commands =>
    obtain ⟨calls, t, hrun, hends⟩ := Runner.runAll_under r hfired commands s
    have hattempt : change.attempt (r.under token).logged platform ((s, 0), [])
        = (Runner.verdict calls, t, calls) := by
      rw [Change.attempt_eq, hbuilt, SystemProxy.runBuilt, hrun]
    refine ⟨calls, Runner.verdict calls, t, hattempt, ?_, hends⟩
    rw [Change.perform_eq, hattempt]

/-! ## Requests -/

namespace Controller

/-- The token has fired when call number `due` of an operation is due.  A change to a system,
    tried or made, may hand over the next commands of its row, but it ends with the first of them
    whose program has not ended when the wait for it begins: this one cannot be started, or it is
    not waited for.  Over a script that is the first of them at all.  The same holds of every
    request that asks for a change, and a request that asks for none hands over nothing. -/
theorem row_ends_at_first_wait_after_cancellation {kind : RunnerKind} {token : Token} {due : Nat}
    (hfired : token.Fired due) (s : kind.State) :
    (∀ platform (change : Change), ∃ calls outcome t,
      change.attempt (kind.watched token) platform ((s, 0), []) = (outcome, t, calls)
      ∧ change.perform (kind.watched token) platform ((s, 0), [])
        = (Runner.settle outcome, t, calls)
      ∧ kind.tokenRunner.Ends token s due (change.commands platform) calls outcome)
    ∧ ∀ (c : Controller) fs (request : Request),
      (request.change? c fs = none →
        (c.serve (kind.watched token) fs ((s, 0), []) request).2.2 = ((s, 0), []))
      ∧ ∀ change, request.change? c fs = some change → ∃ calls outcome t,
        (c.serve (kind.watched token) fs ((s, 0), []) request).1.ok? = some (Runner.settle outcome)
        ∧ (c.serve (kind.watched token) fs ((s, 0), []) request).2.2 = (t, calls)
        ∧ kind.tokenRunner.Ends token s due (change.commands c.platform) calls outcome := by
  have hchange (platform : Platform) (change : Change) :=
    change.ends kind.tokenRunner hfired platform s
  refine ⟨hchange, ?_⟩
  intro c fs request
  refine ⟨fun hnone => serve_of_no_change hnone _ _, ?_⟩
  intro change hsome
  obtain ⟨calls, outcome, t, -, hperform, hends⟩ := hchange c.platform change
  obtain ⟨hanswer, hstate⟩ := serve_of_change hsome (kind.watched token) ((s, 0), [])
  have hperformed : change.perform (kind.watched token) c.platform ((s, 0), [])
      = (Runner.settle outcome, t, calls) := hperform
  rw [hperformed] at hanswer hstate
  exact ⟨calls, outcome, t, hanswer, hstate, hends⟩

/-! ## Calls that are made after that -/

/-- A token that fires after the first call. -/
def secondCall : Token := fun n => (if n = 0 then none else some 0, false)

/-- A row of five commands is cut off at its second one. -/
theorem row_ends_at_first_wait_after_cancellation_second :
    secondCall.Fired 1
    ∧ ((Change.enable Config.default.listen).attempt (RunnerKind.scripted.watched secondCall) .linux
      ((⟨[], []⟩, 0), [])).2.2.length = 2
    ∧ ∃ calls outcome t,
      (Change.enable Config.default.listen).attempt (RunnerKind.scripted.watched secondCall) .linux
        ((⟨[], []⟩, 0), []) = (outcome, t, calls)
      ∧ RunnerKind.scripted.tokenRunner.Ends secondCall ⟨[], []⟩ 1
        ((Change.enable Config.default.listen).commands .linux) calls outcome := by
  have hfired : secondCall.Fired 1 := fun n hn => if_neg (Nat.ne_of_gt hn)
  obtain ⟨hchange, -⟩ :=
    @row_ends_at_first_wait_after_cancellation .scripted secondCall 1 hfired ⟨[], []⟩
  obtain ⟨calls, outcome, t, hattempt, -, hends⟩ := hchange .linux (.enable Config.default.listen)
  exact ⟨hfired, rfl, calls, outcome, t, hattempt, hends⟩

/-- A token that has fired before anything begins. -/
def firedBefore : Token := fun _ => (some 0, false)

/-- The same token, where every end that is there in time is seen before it. -/
def overlooked : Token := fun _ => (some 0, true)

/-- A system on which every program ends at once. -/
def quick : Host.Launch := fun _ _ => .ok fun files => .done (.status 0) files

/-- Why only an unfinished program ends a row: where every program has ended by the time the wait
    for it begins, and this is seen first, a row goes through to its end. -/
theorem row_completed_after_cancellation (host : Host) (commands : List Command) :
    overlooked.Fired 0
    ∧ Runner.runAll ((Host.tokenRunner quick).under overlooked) commands (host, 0)
      = (.ok true, host, commands.length) := by
  have hrow (n : Nat) : Runner.runAll ((Host.tokenRunner quick).under overlooked) commands (host, n)
      = (.ok true, host, n + commands.length) := by
    induction commands generalizing n with
    | nil => rfl
    | cons c rest ih =>
      have hstep : Runner.runSucceeded ((Host.tokenRunner quick).under overlooked) c (host, n)
          = (.ok true, host, n + 1) := by
        cases host
        rfl
      rw [Runner.runAll, hstep]
      simp only [ih, Bool.true_and, List.length_cons]
      rw [Nat.add_assoc, Nat.add_comm 1]
  refine ⟨fun _ _ => rfl, ?_⟩
  rw [hrow, Nat.zero_add]

/-- The path of a certificate. -/
def ownCertificate : Path := Path.ofString "ca.pem"

/-- The token has fired before the operation is called, and still a command is handed over.  Over
    a script it is written down, and over programs the certificate is in the trust store
    afterwards. -/
theorem certificate_copied_after_cancellation :
    firedBefore.Fired 0
    ∧ ((Change.install ownCertificate).attempt (Script.tokenRunner.under firedBefore) .linux
        (⟨[], []⟩, 0)).2.1.log
      = [TrustStore.shell (TrustStore.linuxInstallScript ownCertificate)]
    ∧ (((Change.install ownCertificate).attempt
        ((Host.tokenRunner Host.launch).under firedBefore) .linux
        (⟨.oneFile "ca.pem" [1], []⟩, 0)).2.1.files.read
          (Path.ofString TrustStore.linuxCertificate)).toOption = some [1] :=
  ⟨fun _ _ => rfl, rfl, by decide +kernel⟩

end Controller

end ProxyTrust
