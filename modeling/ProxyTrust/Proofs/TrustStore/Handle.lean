/-
  By what a certificate is removed on the platforms that know it by its fingerprint.

  1. **Commands** — the command is made of fixed words and one handle at its end.  The handle is a
     fixed text, which leads to the certificate's place, and a fingerprint.  Without a fingerprint
     there is no command.

  2. **The handle** — the fingerprint is the one that was given, else that of the configured
     certificate (`handle_iff`).  It is forty upper-case hexadecimal digits wherever it comes
     from, so that no text of the user or of a file reaches the program that is called.

  3. **Removals** — hence a removal makes at most one call, that call names the handle, and there
     is a call exactly if there is a handle (`uninstallCa_goesBy`), over any runner and whatever
     it answers.
-/
import ProxyTrust.Controller
import ProxyTrust.Proofs.Command.Change
import ProxyTrust.Proofs.Fingerprint

namespace ProxyTrust

open Fingerprint (Made WellFormed)

namespace TrustStore

/-! ## The command -/

/-- The platforms whose trust store knows a certificate by its fingerprint. -/
inductive KnowsFingerprints : Platform → Prop
  | windows : KnowsFingerprints .windows
  | macos : KnowsFingerprints .macos

/-- What leads to a certificate's place, in front of its fingerprint. -/
def handleLead : Platform → String
  | .windows => "Remove-Item -Path Cert:\\LocalMachine\\Root\\"
  | _ => ""

/-- The words in front of the handle. -/
def fixedWords : Platform → List String
  | .windows => ["powershell", "-NoProfile", "-Command"]
  | .macos => ["security", "delete-certificate", "-Z"]
  | _ => []

/-- The command removes a certificate by its fingerprint, and holds no text but that. -/
structure Names (platform : Platform) (f : Fingerprint) (command : Command) : Prop where
  words : command.program :: command.args.dropLast = fixedWords platform
  last : command.args.getLast? = some (handleLead platform ++ f.text)
  wellFormed : f.WellFormed

/-- The row of a removal is one command that names its fingerprint. -/
theorem uninstall_commands {platform : Platform} (hplatform : KnowsFingerprints platform)
    {f : Fingerprint} (hform : f.WellFormed) (installed : Option Path) :
    ∃ command, (Change.uninstall (some f) installed).commands platform = .ok [command]
      ∧ Names platform f command := by
  cases hplatform with
  | windows => exact ⟨_, rfl, rfl, rfl, hform⟩
  | macos =>
    refine ⟨_, rfl, rfl, ?_, hform⟩
    exact congrArg some (String.empty_append).symm

/-- There is no row without a fingerprint. -/
theorem uninstall_commands_none {platform : Platform} (hplatform : KnowsFingerprints platform)
    (installed : Option Path) :
    ∃ fault, (Change.uninstall none installed).commands platform = .error fault := by
  cases hplatform with
  | windows => exact ⟨_, rfl⟩
  | macos => exact ⟨_, rfl⟩

/-- A removal goes by a handle: its calls name it, it makes one exactly where there is a handle,
    and it does not work without a call. -/
structure GoesBy (platform : Platform) (handle : Fingerprint → Prop) (calls : List Call)
    (worked : Prop) :
    Prop where
  names : ∀ call ∈ calls, ∃ f, handle f ∧ Names platform f call.command
  called_iff : calls ≠ [] ↔ ∃ f, handle f
  called_of_worked : worked → calls ≠ []

end TrustStore

/-! ## The controller -/

namespace Controller

open TrustStore (KnowsFingerprints GoesBy)

variable {σ : Type} {c : Controller} {fs : FileSystem} {given : Option Fingerprint}
  {f : Fingerprint}

/-- The fingerprint that a removal goes by: the given one, else that of the configured
    certificate. -/
inductive Handle (c : Controller) (fs : FileSystem) : Option Fingerprint → Fingerprint → Prop
  | given (f : Fingerprint) : Handle c fs (some f) f
  | configured {f : Fingerprint} (h : c.caFingerprint fs = .ok f) : Handle c fs none f

/-- On these platforms the configured certificate is looked at. -/
theorem fingerprintForRemoval_eq (hplatform : KnowsFingerprints c.platform) :
    c.fingerprintForRemoval fs = (c.caFingerprint fs).toOption := by
  rw [fingerprintForRemoval]
  generalize c.platform = platform at hplatform
  cases hplatform with
  | windows => rfl
  | macos => rfl

/-- A removal goes by the given fingerprint, else by what the controller finds. -/
theorem handle_iff (hplatform : KnowsFingerprints c.platform) :
    c.Handle fs given f ↔ given.or (c.fingerprintForRemoval fs) = some f := by
  rw [fingerprintForRemoval_eq hplatform]
  cases given with
  | some g =>
    constructor
    · rintro ⟨⟩
      rfl
    · intro h
      obtain rfl := Option.some.inj h
      exact .given g
  | none =>
    rw [Option.none_or]
    cases hfound : c.caFingerprint fs with
    | error fault =>
      refine iff_of_false ?_ (fun h => nomatch h)
      rintro ⟨⟩
      next h => rw [hfound] at h; nomatch h
    | ok g =>
      constructor
      · rintro ⟨⟩
        next h => rw [← hfound, h]; rfl
      · intro h
        obtain rfl := Option.some.inj h
        exact .configured hfound

/-- A fingerprint that is told of a file is computed from a certificate. -/
theorem made_of_caFingerprint (h : c.caFingerprint fs = .ok f) : f.Made := by
  rw [caFingerprint, Authority.fingerprintAt] at h
  split at h
  · nomatch h
  · rw [Authority.fingerprintOf] at h
    split at h
    · nomatch h
    · next bytes _ =>
      split at h
      · nomatch h
      · exact .ofBytes bytes (Except.ok.inj h)

/-- Whatever a removal goes by is forty upper-case digits. -/
theorem Handle.wellFormed (hmade : ∀ g, given = some g → g.Made) (h : c.Handle fs given f) :
    f.WellFormed := by
  cases h with
  | given f => exact (hmade f rfl).wellFormed
  | configured h => exact (made_of_caFingerprint h).wellFormed

theorem uninstallCa_eq_perform (run : Runner σ) (installed : Option Path) (s : σ) :
    c.uninstallCa run fs given installed s
      = (Change.uninstall (given.or (c.fingerprintForRemoval fs))
        (installed.or c.config.ca.installedPath)).perform run c.platform s := rfl

/-- A removal over any runner goes by its handle. -/
theorem uninstallCa_goesBy (fs : FileSystem) (hplatform : KnowsFingerprints c.platform)
    (hmade : ∀ g, given = some g → g.Made) (run : Runner σ) (installed : Option Path) (s : σ) :
    ∃ ok t calls, c.uninstallCa run.logged fs given installed (s, []) = (ok, t, calls)
      ∧ c.uninstallCa run fs given installed s = (ok, t)
      ∧ GoesBy c.platform (c.Handle fs given) calls (ok = true) := by
  simp only [uninstallCa_eq_perform]
  cases hfound : given.or (c.fingerprintForRemoval fs) with
  | none =>
    -- nothing to go by: the command cannot be built
    obtain ⟨fault, hfault⟩ := TrustStore.uninstall_commands_none hplatform
      (installed.or c.config.ca.installedPath)
    refine ⟨false, s, [], Change.perform_of_fault hfault _ _, Change.perform_of_fault hfault _ _,
      ?_, ?_, ?_⟩
    · intro call hcall
      nomatch hcall
    · refine iff_of_false (fun hcalls => hcalls rfl) ?_
      rintro ⟨f, hf⟩
      rw [handle_iff hplatform, hfound] at hf
      nomatch hf
    · intro hok
      nomatch hok
  | some f =>
    -- one command, which names the fingerprint at its end
    have hf : c.Handle fs given f := (handle_iff hplatform).mpr hfound
    obtain ⟨command, hcommand, hnames⟩ :=
      TrustStore.uninstall_commands hplatform (hf.wellFormed hmade)
      (installed.or c.config.ca.installedPath)
    obtain ⟨calls, t, hcalls, hlogged, hplain⟩ := Change.perform_of_commands hcommand run s
    have hcalled : calls ≠ [] := by
      rintro rfl
      nomatch hcalls.eq_nil
    refine ⟨_, t, calls, hlogged, hplain, ?_, ?_, fun _ => hcalled⟩
    · intro call hcall
      have hmem := hcalls.mem call hcall
      rw [List.mem_singleton.mp hmem]
      exact ⟨f, hf, hnames⟩
    · exact iff_of_true hcalled ⟨f, hf⟩

end Controller

end ProxyTrust
