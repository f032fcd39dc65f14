/-
  The four changes to an operating system, over any runner.

  1. **Changes** — the proxy setting is switched on and off, a certificate is added to the trust
     store and removed from it.  Each change builds a row of commands for the platform, tries the
     row, and folds what it comes to into one plain answer.  As data, the four of them are one
     operation (`Change.perform`), so that everything below is proved once.

  2. **Answers** — `attempt` tells what became of the row, a verdict or a fault, and `perform`
     folds the two into whether it worked.  A fault, a cancelled wait and a status other than zero
     all come to the same there, which is why the calls are kept along with the answer.

  3. **The contract** — a runner is any function from a command and a state to an answer and a
     state, so that it may keep scripts, start programs, or have its token cancelled before any
     call.  `change_contract` is the main statement: over every runner, the calls of a change are
     those of its row up to the first error, and they alone decide the two answers.  A row that
     cannot be built makes no call.
-/
import ProxyTrust.Proofs.Command.Calls
import ProxyTrust.SystemProxy
import ProxyTrust.TrustStore

namespace ProxyTrust

/-- A change to the operating system. -/
inductive Change where
  | enable (endpoint : Endpoint)
  | disable
  | install (certificate : Path)
  | uninstall (fingerprint : Option Fingerprint) (installed : Option Path)
  deriving Repr, DecidableEq

namespace Change

variable {σ : Type}

/-- The row of commands of a change. -/
def commands (platform : Platform) : Change → Except Fault (List Command)
  | enable e => SystemProxy.enableCommands platform e
  | disable => SystemProxy.disableCommands platform
  | install certificate => (TrustStore.installCommand platform certificate).map ([·])
  | uninstall fingerprint installed =>
    (TrustStore.uninstallCommand platform fingerprint installed).map ([·])

/-- The change tried: whether all commands exited with zero, or the fault. -/
def attempt (run : Runner σ) (platform : Platform) (s : σ) : Change → Except Fault Bool × σ
  | enable e => SystemProxy.tryEnable run platform e s
  | disable => SystemProxy.tryDisable run platform s
  | install certificate => TrustStore.tryInstall run platform certificate s
  | uninstall fingerprint installed => TrustStore.tryUninstall run platform fingerprint installed s

/-- The change made: it worked. -/
def perform (run : Runner σ) (platform : Platform) (s : σ) : Change → Bool × σ
  | enable e => SystemProxy.enable run platform e s
  | disable => SystemProxy.disable run platform s
  | install certificate => TrustStore.install run platform certificate s
  | uninstall fingerprint installed => TrustStore.uninstall run platform fingerprint installed s

/-! ## One shape for the four -/

/-- One command that could be built is a row of one. -/
theorem runBuilt_singleton (run : Runner σ) (built : Except Fault Command) (s : σ) :
    TrustStore.runBuilt run built s = SystemProxy.runBuilt run (built.map ([·])) s := by
  cases built with
  | error fault => rfl
  | ok c => exact (Runner.runAll_singleton run c s).symm

/-- Every change runs its row if that could be built. -/
theorem attempt_eq (run : Runner σ) (platform : Platform) (s : σ) (change : Change) :
    change.attempt run platform s = SystemProxy.runBuilt run (change.commands platform) s := by
  cases change with
  | enable e => rfl
  | disable => rfl
  | install certificate => exact runBuilt_singleton run _ s
  | uninstall fingerprint installed => exact runBuilt_singleton run _ s

/-- The plain answer of a change is that of the change tried, with every fault folded into
    `false`. -/
theorem perform_eq (run : Runner σ) (platform : Platform) (s : σ) (change : Change) :
    change.perform run platform s
      = (Runner.settle (change.attempt run platform s).1, (change.attempt run platform s).2) := by
  cases change <;> rfl

/-- The plain answer is `true` for one outcome alone. -/
theorem settle_eq_true_iff (outcome : Except Fault Bool) :
    Runner.settle outcome = true ↔ outcome = .ok true := by
  cases outcome with
  | error fault => simp [Runner.settle]
  | ok ok => simp [Runner.settle]

/-! ## Where the row can be built, and where it cannot -/

/-- A change whose row cannot be built fails, and calls nothing. -/
theorem perform_of_fault {platform : Platform} {change : Change} {fault : Fault}
    (h : change.commands platform = .error fault) (run : Runner σ) (s : σ) :
    change.perform run platform s = (false, s) := by
  rw [perform_eq, attempt_eq, h]
  rfl

/-- A change whose row can be built makes calls up to the first error, and works if they all say
    so. -/
theorem perform_of_commands {platform : Platform} {change : Change} {commands : List Command}
    (h : change.commands platform = .ok commands) (run : Runner σ) (s : σ) :
    ∃ calls t, Runner.UpToFirstError commands calls
      ∧ change.perform run.logged platform (s, [])
        = (Runner.settle (Runner.verdict calls), t, calls)
      ∧ change.perform run platform s = (Runner.settle (Runner.verdict calls), t) := by
  obtain ⟨calls, t, hcalls, hlogged, hplain⟩ := Runner.runAll_logged run commands s []
  rw [List.nil_append] at hlogged
  refine ⟨calls, t, hcalls, ?_, ?_⟩
  · rw [perform_eq, attempt_eq, h, SystemProxy.runBuilt, hlogged]
  · rw [perform_eq, attempt_eq, h, SystemProxy.runBuilt, hplain]

/-- All commands of a row were run, and all exited with zero. -/
def AllSucceeded (commands : List Command) (calls : List Call) : Prop :=
  calls.map Call.command = commands ∧ ∀ call ∈ calls, call.answer = .ok 0

/-- A change worked exactly if all its commands were run and exited with zero. -/
theorem settle_verdict_iff {commands : List Command} {calls : List Call}
    (h : Runner.UpToFirstError commands calls) :
    Runner.settle (Runner.verdict calls) = true ↔ AllSucceeded commands calls := by
  rw [settle_eq_true_iff, h.contract.true_iff]
  constructor
  · intro hall
    exact ⟨h.map_command fun call hcall => ⟨0, hall call hcall⟩, hall⟩
  · exact fun hall => hall.2

/-- No row is empty. -/
theorem commands_ne_nil {platform : Platform} {change : Change} {commands : List Command}
    (h : change.commands platform = .ok commands) : commands ≠ [] := by
  rintro rfl
  cases change with
  | enable e => cases platform <;> nomatch h
  | disable => cases platform <;> nomatch h
  | install certificate => cases platform <;> nomatch h
  | uninstall fingerprint installed => cases platform <;> cases fingerprint <;> nomatch h

/-! ## Main statement -/

/-- A change over any runner, from any state, with the log of its calls.  Where its row cannot be
    built, the runner is not called and the fault is told.  Otherwise the calls are those of the
    row up to the first error, and the outcome is what these calls come to: the first error if
    there is one, else whether every status was zero.  The plain answer is `true` exactly where
    the outcome is, and none of this depends on the log being written. -/
theorem change_contract (run : Runner σ) (platform : Platform) (s : σ) (change : Change) :
    ∃ calls outcome ok t,
      change.attempt run.logged platform (s, []) = (outcome, t, calls)
      ∧ change.perform run.logged platform (s, []) = (ok, t, calls)
      ∧ change.attempt run platform s = (outcome, t)
      ∧ change.perform run platform s = (ok, t)
      ∧ (ok = true ↔ outcome = .ok true)
      ∧ match change.commands platform with
        | .error fault => calls = [] ∧ t = s ∧ outcome = .error fault
        | .ok commands => Runner.Contract commands calls outcome := by
  cases hbuilt : change.commands platform with
  | error fault =>
    -- there is no row, so that nothing is called and the fault is told
    have hattempt {τ : Type} (run : Runner τ) (s : τ) :
        change.attempt run platform s = (.error fault, s) := by
      rw [attempt_eq, hbuilt, SystemProxy.runBuilt]
    refine ⟨[], .error fault, _, s, hattempt _ _, ?_, hattempt run s, ?_, settle_eq_true_iff _,
      rfl, rfl, rfl⟩
    · rw [perform_eq, hattempt]
    · rw [perform_eq, hattempt]
  | ok commands =>
    -- the row is there, and the calls are those of `Runner.runAll_logged`
    obtain ⟨calls, t, hcalls, hlogged, hplain⟩ := Runner.runAll_logged run commands s []
    have hattempt {τ : Type} (run : Runner τ) (s : τ) :
        change.attempt run platform s = run.runAll commands s := by
      rw [attempt_eq, hbuilt, SystemProxy.runBuilt]
    rw [List.nil_append] at hlogged
    refine ⟨calls, Runner.verdict calls, _, t, ?_, ?_, ?_, ?_, settle_eq_true_iff _,
      hcalls.contract⟩
    · rw [hattempt, hlogged]
    · rw [perform_eq, hattempt, hlogged]
    · rw [hattempt, hplain]
    · rw [perform_eq, hattempt, hplain]

end Change

end ProxyTrust
