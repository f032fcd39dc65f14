/-
  The status of the script that installs a certificate.

  The script runs at most four commands besides `true`: the directory is made, the certificate is
  copied, the tool that refreshes the store is looked up, and the tool is run.

  1. **Stages** — `installStages` tells how each of them ends in the state that those before it
     left.

  2. **The status** — the crux is `evaluate_refreshGroup_status`: the `|| true` at the end stands
     for both commands before it, the lookup and the tool, so that neither has a part in the
     status.

  3. **A failed refresh** — `tryInstall_true_iff_unless_refresh_failed` is the main statement: the
     answer is right about the store in all cases but one, a tool that is there and fails.
-/
import ProxyTrust.Proofs.TrustStore.Evaluation

namespace ProxyTrust.TrustStore

open Shell (Programs)

variable {σ : Type} {programs : Programs σ}

/-! ## Stages -/

/-- How the four commands end. -/
structure InstallStages where
  made : Nat
  copied : Nat
  found : Nat
  refreshed : Nat
  deriving Repr, DecidableEq

/-- The stages over given programs. -/
def installStages (programs : Programs σ) (certificate : Path) (s : σ) : InstallStages :=
  let made := programs makeWords s
  let copied := programs (copyWords (Text.decodeLossy certificate.bytes)) made.2
  let found := programs lookupWords copied.2
  let refreshed := programs refreshWords found.2
  ⟨made.1, copied.1, found.1, refreshed.1⟩

namespace InstallStages

/-- The certificate was copied. -/
def Copied (stages : InstallStages) : Prop := stages.made = 0 ∧ stages.copied = 0

/-- The certificate was copied and the store knows it: the tool is not there, or it worked. -/
def Succeeded (stages : InstallStages) : Prop :=
  stages.Copied ∧ (stages.found ≠ 0 ∨ stages.refreshed = 0)

/-- The certificate was copied, and the tool that is there failed. -/
def RefreshFailed (stages : InstallStages) : Prop :=
  stages.Copied ∧ stages.found = 0 ∧ stages.refreshed ≠ 0

/-- A copied certificate is known to the store unless the refresh failed. -/
theorem copied_iff_succeeded_iff (stages : InstallStages) :
    (stages.Copied ↔ stages.Succeeded) ↔ ¬ stages.RefreshFailed := by
  constructor
  · rintro hiff ⟨hcopied, hfound, hrefreshed⟩
    rcases (hiff.mp hcopied).2 with hmissing | hworked
    · exact hmissing hfound
    · exact hrefreshed hworked
  · intro hfailed
    constructor
    · intro hcopied
      refine ⟨hcopied, ?_⟩
      by_cases hfound : stages.found = 0
      · exact .inr (Decidable.byContradiction fun hrefreshed =>
          hfailed ⟨hcopied, hfound, hrefreshed⟩)
      · exact .inl hfound
    · exact fun hsucceeded => hsucceeded.1

end InstallStages

/-! ## The status -/

/-- The parentheses at the end come to zero, whatever the lookup and the tool come to. -/
theorem evaluate_refreshGroup_status (htrue : ∀ s, (programs succeedWords s).1 = 0) (s : σ) :
    (programs.evaluate 0 refreshGroup s).1 = 0 := by
  rw [evaluate_refreshGroup]
  rcases programs lookupWords s with ⟨_ | found, s⟩
  · simp only
    rcases programs refreshWords s with ⟨_ | refreshed, s⟩
    · rfl
    · exact htrue s
  · exact htrue s

/-- The list comes to zero where the certificate was copied, and only there. -/
theorem installScript_status (htrue : ∀ s, (programs succeedWords s).1 = 0)
    (certificate : Path) (s : σ) : (programs.evaluate 0 (installScript certificate) s).1 = 0
      ↔ (installStages programs certificate s).Copied := by
  rw [installScript, evaluate_installList (quotedWord_quotes _), InstallStages.Copied,
    installStages]
  rcases programs makeWords s with ⟨_ | made, s⟩
  · simp only
    rcases programs (copyWords (Text.decodeLossy certificate.bytes)) s with ⟨_ | copied, s⟩
    · simp [evaluate_refreshGroup_status htrue]
    · simp
  · simp

/-! ## A failed refresh -/

/-- Whether the answer of an installation is right about the trust store: it is, whatever the path
    and however the commands end, unless the certificate was copied and the tool that is there
    failed.  What the answer does tell is that the certificate was copied. -/
theorem tryInstall_true_iff_unless_refresh_failed (htrue : ∀ s, (programs succeedWords s).1 = 0)
    (certificate : Path) (s : σ) :
    ∃ ok, (tryInstall programs.runner .linux certificate s).1 = .ok ok
      ∧ (ok = true ↔ (installStages programs certificate s).Copied)
      ∧ ((ok = true ↔ (installStages programs certificate s).Succeeded)
          ↔ ¬ (installStages programs certificate s).RefreshFailed) := by
  refine ⟨_, by rw [tryInstall_linux], ?_, ?_⟩
  · rw [beq_iff_eq]
    exact installScript_status htrue certificate s
  · rw [beq_iff_eq, installScript_status htrue]
    exact (installStages programs certificate s).copied_iff_succeeded_iff

/-- A system on which everything works but the tool. -/
def brokenRefresh : Programs Unit := fun words s => (if words = refreshWords then 1 else 0, s)

theorem brokenRefresh_true (s : Unit) : (brokenRefresh succeedWords s).1 = 0 := by
  cases s
  decide

/-- A tool that is there and fails, after a copy that worked. -/
theorem tryInstall_true_iff_unless_refresh_failed_brokenRefresh :
    (∀ s, (brokenRefresh succeedWords s).1 = 0)
    ∧ ∃ ok, (tryInstall brokenRefresh.runner .linux (Path.ofString "ca.pem") ()).1 = .ok ok
      ∧ (ok = true ↔ (installStages brokenRefresh (Path.ofString "ca.pem") ()).Copied)
      ∧ ((ok = true ↔ (installStages brokenRefresh (Path.ofString "ca.pem") ()).Succeeded)
          ↔ ¬ (installStages brokenRefresh (Path.ofString "ca.pem") ()).RefreshFailed) :=
  ⟨brokenRefresh_true, tryInstall_true_iff_unless_refresh_failed brokenRefresh_true _ _⟩

/-- The tool is there and fails, and the installation says that it worked. -/
theorem tryInstall_brokenRefresh :
    (tryInstall brokenRefresh.runner .linux (Path.ofString "ca.pem") ()).1 = .ok true
    ∧ ¬ (installStages brokenRefresh (Path.ofString "ca.pem") ()).Succeeded := by
  have hstages : installStages brokenRefresh (Path.ofString "ca.pem") () = ⟨0, 0, 0, 1⟩ := by
    decide +kernel
  have hstatus := (installScript_status brokenRefresh_true (Path.ofString "ca.pem") ()).mpr
    (by rw [hstages]; exact ⟨rfl, rfl⟩)
  constructor
  · rw [tryInstall_linux, hstatus]
    rfl
  · rw [hstages]
    rintro ⟨-, hmissing | hworked⟩
    · exact hmissing rfl
    · nomatch hworked

end ProxyTrust.TrustStore
