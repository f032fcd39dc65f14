/-
  What is asked of a controller, as data.

  1. **Requests** — `serve` is the controller as one function: a request, the files and the state
     of the runner go in, an answer, the files and the state come out.  What holds of every
     operation is then one statement over requests, and its proof has one case for each operation.

  2. **Files** — they change only where an authority is provisioned (`serve_files`), so that what
     is known of provisioning carries over: nothing is taken away (`grows_serve`), and an answer
     that needs an authority tells that there is one (`exists_of_provides`).

  3. **Changes** — the runner is only called by the change that a request asks for
     (`serve_of_change`, `serve_of_no_change`), so that the calls of a request are those of its
     change.
-/
import ProxyTrust.Controller
import ProxyTrust.Proofs.Authority.Provision
import ProxyTrust.Proofs.Command.Change

namespace ProxyTrust.Controller

open Authority (Draw EnsureOutcome)
open FileSystem (Grows)

variable {σ : Type}

/-! ## Requests and answers -/

/-- An operation with its arguments, and with what chance and the clock decide about it. -/
inductive Request where
  | ensureCa (draw : Draw) (now : Moment)
  | caFingerprint
  | installCa (draw : Draw) (now : Moment)
  | uninstallCa (fingerprint : Option Fingerprint) (installed : Option Path)
  | enableProxy (endpoint : Endpoint)
  | disableProxy

/-- What an operation gives back. -/
inductive Answer where
  | ensured (outcome : Except Stop EnsureOutcome)
  | fingerprint (outcome : Except Fault Fingerprint)
  | installed (outcome : Except Stop Bool)
  | changed (ok : Bool)

/-- The operation served. -/
def serve (c : Controller) (run : Runner σ) (fs : FileSystem) (s : σ) :
    Request → Answer × FileSystem × σ
  | .ensureCa draw now => (.ensured (c.ensureCa draw now fs).1, (c.ensureCa draw now fs).2, s)
  | .caFingerprint => (.fingerprint (c.caFingerprint fs), fs, s)
  | .installCa draw now =>
    let served := c.installCa run draw now fs s
    (.installed served.1, served.2)
  | .uninstallCa fingerprint installed =>
    let served := c.uninstallCa run fs fingerprint installed s
    (.changed served.1, fs, served.2)
  | .enableProxy e =>
    let served := c.enableProxy run e s
    (.changed served.1, fs, served.2)
  | .disableProxy =>
    let served := c.disableProxy run s
    (.changed served.1, fs, served.2)

/-- The answer tells that there is an authority: an operation that needs one gave a result. -/
def Answer.provides : Answer → Bool
  | .ensured (.ok _) => true
  | .fingerprint (.ok _) => true
  | .installed (.ok _) => true
  | _ => false

/-- The answer tells that a new authority was made. -/
def Answer.isGenerated : Answer → Bool
  | .ensured (.ok .generated) => true
  | _ => false

/-- An authority that was made is one that there is. -/
theorem provides_of_isGenerated {answer : Answer} (h : answer.isGenerated = true) :
    answer.provides = true := by
  rw [Answer.isGenerated.eq_def] at h
  split at h
  · rfl
  · nomatch h

/-! ## The files -/

variable {c : Controller} {fs : FileSystem}

/-- An installation leaves the files as provisioning does. -/
theorem installCa_files (c : Controller) (run : Runner σ) (draw : Draw) (now : Moment)
    (fs : FileSystem) (s : σ) :
    (c.installCa run draw now fs s).2.1 = (c.ensureCa draw now fs).2 := by
  rw [installCa]
  split
  · next heq => rw [heq]
  · next heq => rw [heq]

/-- The files after an operation: those that provisioning leaves, or the files as they were. -/
theorem serve_files (c : Controller) (run : Runner σ) (fs : FileSystem) (s : σ)
    (request : Request) :
    (∃ draw now, (request = .ensureCa draw now ∨ request = .installCa draw now)
        ∧ (c.serve run fs s request).2.1 = (c.ensureCa draw now fs).2)
      ∨ (c.serve run fs s request).2.1 = fs := by
  cases request with
  | ensureCa draw now => exact .inl ⟨draw, now, .inl rfl, rfl⟩
  | installCa draw now => exact .inl ⟨draw, now, .inr rfl, installCa_files c run draw now fs s⟩
  | caFingerprint => exact .inr rfl
  | uninstallCa fingerprint installed => exact .inr rfl
  | enableProxy e => exact .inr rfl
  | disableProxy => exact .inr rfl

/-- No operation takes anything away from the files. -/
theorem grows_serve (htree : fs.IsTree) (run : Runner σ) (s : σ) (request : Request) :
    Grows fs (c.serve run fs s request).2.1 := by
  rcases serve_files c run fs s request with ⟨draw, now, -, hfiles⟩ | hfiles
  · rw [hfiles]
    exact (Authority.grows_ensureFiles htree draw now _ _).1
  · rw [hfiles]
    exact .refl fs

/-- Where provisioning says that it worked, something is at the path of the certificate. -/
theorem exists_of_ensureCa (htree : fs.IsTree) {draw : Draw} {now : Moment}
    {outcome : EnsureOutcome} (h : (c.ensureCa draw now fs).1 = .ok outcome) :
    (c.ensureCa draw now fs).2.pathExists c.config.ca.certPath = true :=
  (Authority.grows_ensureFiles htree draw now _ _).2 outcome h

/-- An installation has a result only where provisioning worked. -/
theorem ensureCa_of_installCa {run : Runner σ} {draw : Draw} {now : Moment} {s : σ} {ok : Bool}
    (h : (c.installCa run draw now fs s).1 = .ok ok) :
    ∃ outcome, (c.ensureCa draw now fs).1 = .ok outcome := by
  rw [installCa] at h
  split at h
  · cases h
  · next outcome left heq => exact ⟨outcome, congrArg Prod.fst heq⟩

/-- An answer that tells of an authority is given where something is at the path of the
    certificate. -/
theorem exists_of_provides (htree : fs.IsTree) {run : Runner σ} {s : σ} {request : Request}
    (h : (c.serve run fs s request).1.provides = true) :
    (c.serve run fs s request).2.1.pathExists c.config.ca.certPath = true := by
  cases request with
  | ensureCa draw now =>
    cases houtcome : (c.ensureCa draw now fs).1 with
    | error stop =>
      rw [serve, houtcome] at h
      cases h
    | ok outcome => exact exists_of_ensureCa htree houtcome
  | caFingerprint =>
    cases houtcome : c.caFingerprint fs with
    | error fault =>
      rw [serve, houtcome] at h
      cases h
    | ok print => exact Authority.exists_of_fingerprintAt houtcome
  | installCa draw now =>
    -- an installation provisions first, and leaves the files of that
    cases houtcome : (c.installCa run draw now fs s).1 with
    | error stop =>
      rw [serve, houtcome] at h
      cases h
    | ok ok =>
      obtain ⟨outcome, hensured⟩ := ensureCa_of_installCa houtcome
      show (c.installCa run draw now fs s).2.1.pathExists c.config.ca.certPath = true
      rw [installCa_files]
      exact exists_of_ensureCa htree hensured
  | uninstallCa fingerprint installed => nomatch h
  | enableProxy e => nomatch h
  | disableProxy => nomatch h

/-- Where there is an authority, no operation changes the files. -/
theorem serve_files_of_exists (hexists : fs.pathExists c.config.ca.certPath = true) (run : Runner σ)
    (s : σ) (request : Request) : (c.serve run fs s request).2.1 = fs := by
  rcases serve_files c run fs s request with ⟨draw, now, -, hfiles⟩ | hfiles
  · rw [hfiles, ensureCa, Authority.ensureFiles_of_exists hexists]
  · exact hfiles

/-- Where there is an authority, it is found. -/
theorem serve_ensureCa_of_exists (hexists : fs.pathExists c.config.ca.certPath = true)
    (run : Runner σ) (s : σ) (draw : Draw) (now : Moment) :
    (c.serve run fs s (.ensureCa draw now)).1 = .ensured (.ok .alreadyPresent) := by
  rw [serve, ensureCa, Authority.ensureFiles_of_exists hexists]

/-- Only provisioning tells that a new authority was made. -/
theorem ensureCa_of_isGenerated {run : Runner σ} {s : σ} {request : Request}
    (h : (c.serve run fs s request).1.isGenerated = true) :
    ∃ draw now, request = .ensureCa draw now := by
  cases request with
  | ensureCa draw now => exact ⟨draw, now, rfl⟩
  | caFingerprint => nomatch h
  | installCa draw now => nomatch h
  | uninstallCa fingerprint installed => nomatch h
  | enableProxy e => nomatch h
  | disableProxy => nomatch h

/-! ## The system -/

/-- The change to the system that a request asks for.  There is none where no authority can be
    made. -/
def Request.change? (c : Controller) (fs : FileSystem) : Request → Option Change
  | .ensureCa _ _ => none
  | .caFingerprint => none
  | .installCa draw now =>
    match (c.ensureCa draw now fs).1 with
    | .error _ => none
    | .ok _ => some (.install c.config.ca.certPath)
  | .uninstallCa fingerprint installed =>
    some (.uninstall (fingerprint.or (c.fingerprintForRemoval fs))
      (installed.or c.config.ca.installedPath))
  | .enableProxy e => some (.enable e)
  | .disableProxy => some .disable

/-- What an answer says about a change to the system. -/
def Answer.ok? : Answer → Option Bool
  | .installed (.ok ok) => some ok
  | .changed ok => some ok
  | _ => none

/-- A request that asks for a change makes it, and its answer is that of the change. -/
theorem serve_of_change {request : Request} {change : Change}
    (h : request.change? c fs = some change) (run : Runner σ) (s : σ) :
    (c.serve run fs s request).1.ok? = some (change.perform run c.platform s).1
      ∧ (c.serve run fs s request).2.2 = (change.perform run c.platform s).2 := by
  cases request with
  | ensureCa draw now => nomatch h
  | caFingerprint => nomatch h
  | installCa draw now =>
    -- there is a change only where provisioning worked
    cases hensured : c.ensureCa draw now fs with
    | mk outcome left =>
      rw [Request.change?, hensured] at h
      cases outcome with
      | error stop => nomatch h
      | ok outcome =>
        obtain rfl := Option.some.inj h
        rw [serve, installCa, hensured]
        exact ⟨rfl, rfl⟩
  | uninstallCa fingerprint installed =>
    obtain rfl := Option.some.inj h
    exact ⟨rfl, rfl⟩
  | enableProxy e =>
    obtain rfl := Option.some.inj h
    exact ⟨rfl, rfl⟩
  | disableProxy =>
    obtain rfl := Option.some.inj h
    exact ⟨rfl, rfl⟩

/-- A request that asks for no change does not call the runner. -/
theorem serve_of_no_change {request : Request} (h : request.change? c fs = none) (run : Runner σ)
    (s : σ) : (c.serve run fs s request).2.2 = s := by
  cases request with
  | ensureCa draw now => rfl
  | caFingerprint => rfl
  | installCa draw now =>
    cases hensured : c.ensureCa draw now fs with
    | mk outcome left =>
      rw [Request.change?, hensured] at h
      cases outcome with
      | error stop => rw [serve, installCa, hensured]
      | ok outcome => nomatch h
  | uninstallCa fingerprint installed => nomatch h
  | enableProxy e => nomatch h
  | disableProxy => nomatch h

end ProxyTrust.Controller
