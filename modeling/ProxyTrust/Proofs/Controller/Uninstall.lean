/-
  What a removal goes by, on every platform.

  1. **The table** — `Issued` tells the command of a removal, by the first of its inputs that is
     there.  On Windows and macOS that is the fingerprint given, else the one read from the
     configured certificate; on Linux the path given, else the configured one, else the usual one.
     There is one row for each state of the inputs, so that exactly one command is told, or none
     (`issued_iff`).

  2. **The run** — that command is the one call of the removal, and whether it exits with zero is
     the answer; where there is no command, nothing is called and the answer is no.

  3. **Other inputs** — two removals that are the same in what their platform looks at are the
     same in all that they do (`Indistinct.issued`).

  `removal_goes_by_first_input` puts the three together.
-/
import ProxyTrust.Command.Script
import ProxyTrust.Proofs.Controller.Requests
import ProxyTrust.Proofs.Outcome
import ProxyTrust.Proofs.TrustStore.Handle

namespace ProxyTrust.Controller

open TrustStore (KnowsFingerprints)

variable {σ : Type}

/-! ## The table -/

/-- A removal with all that it may look at. -/
structure Removal where
  controller : Controller
  files : FileSystem
  fingerprint : Option Fingerprint
  installed : Option Path

/-- The removal served. -/
def Removal.serve (r : Removal) (run : Runner σ) (s : σ) : Answer × FileSystem × σ :=
  r.controller.serve run r.files s (.uninstallCa r.fingerprint r.installed)

/-- The command by a fingerprint. -/
def printCommand (platform : Platform) (f : Fingerprint) : Command :=
  match platform with
  | .windows =>
    ⟨"powershell",
      ["-NoProfile", "-Command", "Remove-Item -Path Cert:\\LocalMachine\\Root\\" ++ f.text]⟩
  | _ => ⟨"security", ["delete-certificate", "-Z", f.text]⟩

/-- The command by a path. -/
def pathCommand (p : Path) : Command :=
  ⟨"sh", ["-lc", "rm -f " ++ TrustStore.quotePath p ++ " && update-ca-certificates"]⟩

/-- The path that a certificate is copied to. -/
def usualPath : Path := Path.ofString "/usr/local/share/ca-certificates/terasu-proxy.crt"

/-- The command of a removal, if there is one. -/
inductive Issued (r : Removal) : Option Command → Prop
  | givenPrint {f : Fingerprint} (hplatform : KnowsFingerprints r.controller.platform)
      (hgiven : r.fingerprint = some f) : Issued r (some (printCommand r.controller.platform f))
  | configuredPrint {f : Fingerprint} (hplatform : KnowsFingerprints r.controller.platform)
      (hgiven : r.fingerprint = none) (hread : r.controller.caFingerprint r.files = .ok f) :
      Issued r (some (printCommand r.controller.platform f))
  | noPrint {fault : Fault} (hplatform : KnowsFingerprints r.controller.platform)
      (hgiven : r.fingerprint = none) (hread : r.controller.caFingerprint r.files = .error fault) :
      Issued r none
  | givenPath {p : Path}
      (hplatform : r.controller.platform = .linux) (hgiven : r.installed = some p) :
      Issued r (some (pathCommand p))
  | configuredPath {p : Path}
      (hplatform : r.controller.platform = .linux) (hgiven : r.installed = none)
      (hconfigured : r.controller.config.ca.installedPath = some p) :
        Issued r (some (pathCommand p))
  | usualPath (hplatform : r.controller.platform = .linux) (hgiven : r.installed = none)
      (hconfigured : r.controller.config.ca.installedPath = none) :
        Issued r (some (pathCommand usualPath))
  | unsupported (hplatform : r.controller.platform = .unsupported) : Issued r none

/-- The command that the controller builds. -/
def Removal.built (r : Removal) : Except Fault Command :=
  TrustStore.uninstallCommand r.controller.platform
    (r.fingerprint.or (r.controller.fingerprintForRemoval r.files))
    (r.installed.or r.controller.config.ca.installedPath)

/-- With a fingerprint the command goes by it, and the installed path plays no part. -/
theorem uninstallCommand_print {platform : Platform} (hplatform : KnowsFingerprints platform)
    (f : Fingerprint) (installed : Option Path) :
    TrustStore.uninstallCommand platform (some f) installed = .ok (printCommand platform f) := by
  cases hplatform with
  | windows => rfl
  | macos => rfl

/-- Without one there is no command. -/
theorem uninstallCommand_noPrint {platform : Platform} (hplatform : KnowsFingerprints platform)
    (installed : Option Path) :
    (TrustStore.uninstallCommand platform none installed).toOption = none := by
  cases hplatform with
  | windows => rfl
  | macos => rfl

variable {r : Removal} {command other : Option Command}

/-- The table tells the command that is built. -/
theorem Issued.eq_built (h : Issued r command) : command = r.built.toOption := by
  rw [Removal.built]
  cases h with
  | givenPrint hplatform hgiven =>
    rw [hgiven, Option.some_or, uninstallCommand_print hplatform]
    rfl
  | configuredPrint hplatform hgiven hread =>
    rw [hgiven, Option.none_or, fingerprintForRemoval_eq hplatform, hread]
    exact congrArg Except.toOption (uninstallCommand_print hplatform _ _).symm
  | noPrint hplatform hgiven hread =>
    rw [hgiven, Option.none_or, fingerprintForRemoval_eq hplatform, hread]
    exact (uninstallCommand_noPrint hplatform _).symm
  | givenPath hplatform hgiven =>
    rw [hplatform, hgiven]
    rfl
  | configuredPath hplatform hgiven hconfigured =>
    rw [hplatform, hgiven, hconfigured]
    rfl
  | usualPath hplatform hgiven hconfigured =>
    rw [hplatform, hgiven, hconfigured]
    rfl
  | unsupported hplatform =>
    rw [hplatform]
    rfl

/-- There is a row of the table for every removal. -/
theorem exists_issued (r : Removal) : ∃ command, Issued r command := by
  -- both platforms that know fingerprints have the same three rows
  have hprint (hplatform : KnowsFingerprints r.controller.platform) :
      ∃ command, Issued r command := by
    cases hgiven : r.fingerprint with
    | some f => exact ⟨_, .givenPrint hplatform hgiven⟩
    | none =>
      cases hread : r.controller.caFingerprint r.files with
      | ok f => exact ⟨_, .configuredPrint hplatform hgiven hread⟩
      | error fault => exact ⟨_, .noPrint hplatform hgiven hread⟩
  cases hplatform : r.controller.platform with
  | windows => exact hprint (hplatform ▸ .windows)
  | macos => exact hprint (hplatform ▸ .macos)
  | linux =>
    cases hgiven : r.installed with
    | some p => exact ⟨_, .givenPath hplatform hgiven⟩
    | none =>
      cases hconfigured : r.controller.config.ca.installedPath with
      | some p => exact ⟨_, .configuredPath hplatform hgiven hconfigured⟩
      | none => exact ⟨_, .usualPath hplatform hgiven hconfigured⟩
  | unsupported => exact ⟨_, .unsupported hplatform⟩

/-- The table tells one command, or that there is none. -/
theorem issued_iff : Issued r command ↔ command = r.built.toOption := by
  constructor
  · exact Issued.eq_built
  · rintro rfl
    obtain ⟨found, hfound⟩ := exists_issued r
    exact hfound.eq_built ▸ hfound

/-! ## The run -/

/-- A command that may be there, run. -/
def runIssued (run : Runner σ) (s : σ) : Option Command → Bool × σ
  | none => (false, s)
  | some command => (Runner.settle (run.runSucceeded command s).1, (run.runSucceeded command s).2)

/-- A removal runs its command, and leaves the files as they are. -/
theorem Issued.serve_eq (h : Issued r command) (run : Runner σ) (s : σ) :
    r.serve run s
      = (.changed (runIssued run s command).1, r.files, (runIssued run s command).2) := by
  obtain rfl := issued_iff.mp h
  have hserve :
      r.serve run s = (.changed (Runner.settle (TrustStore.runBuilt run r.built s).1), r.files,
        (TrustStore.runBuilt run r.built s).2) := rfl
  rw [hserve]
  cases r.built with
  | error fault => rfl
  | ok command => rfl

/-- What a removal comes to: its command is called once, and the answer is whether it exited with
    zero; without a command nothing is called and the answer is no. -/
inductive Ends (run : Runner σ) (s : σ) : Option Command → Bool → σ → List Call → Prop
  | nothing : Ends run s none false s []
  | called {command : Command} {ok : Bool} (hok : ok = true ↔ (run command s).1 = .ok 0) :
      Ends run s (some command) ok (run command s).2 [⟨command, (run command s).1⟩]

/-- A single command is told as one that worked exactly if it exits with zero. -/
theorem settle_runSucceeded_iff (run : Runner σ) (command : Command) (s : σ) :
    Runner.settle (run.runSucceeded command s).1 = true ↔ (run command s).1 = .ok 0 := by
  rw [Runner.runSucceeded]
  split
  · next status t hrun =>
    rw [hrun]
    simp [Runner.settle]
  · next e t hrun =>
    rw [hrun]
    simp [Runner.settle]

/-- Asking for success changes nothing that the run itself does not. -/
theorem state_runSucceeded (run : Runner σ) (command : Command) (s : σ) :
    (run.runSucceeded command s).2 = (run command s).2 := by
  rw [Runner.runSucceeded]
  split
  · next hrun => rw [hrun]
  · next hrun => rw [hrun]

/-- With a log of its calls, a command that may be there ends as it does without. -/
theorem ends_runIssued (run : Runner σ) (s : σ) (command : Option Command) :
    ∃ calls, runIssued run.logged (s, []) command
        = ((runIssued run s command).1, (runIssued run s command).2, calls)
      ∧ Ends run s command (runIssued run s command).1 (runIssued run s command).2 calls := by
  cases command with
  | none => exact ⟨[], rfl, .nothing⟩
  | some command =>
    have hlogged : Runner.settle (Runner.runSucceeded run.logged command (s, [])).1
        = Runner.settle (run.runSucceeded command s).1 :=
      Bool.eq_iff_iff.mpr
        ((settle_runSucceeded_iff run.logged command (s, [])).trans
          (settle_runSucceeded_iff run command s).symm)
    refine ⟨[⟨command, (run command s).1⟩], ?_, ?_⟩
    · rw [runIssued, runIssued, hlogged, state_runSucceeded, state_runSucceeded]
      rfl
    · rw [runIssued, state_runSucceeded]
      exact .called (settle_runSucceeded_iff run command s)

/-! ## Other inputs -/

/-- Two removals that are the same in what their platform looks at: a fingerprint or, if none is
    given, the one of the configured certificate; a path or, if none is given, the configured
    one. -/
structure Indistinct (r other : Removal) : Prop where
  platform : r.controller.platform = other.controller.platform
  print : KnowsFingerprints r.controller.platform → r.fingerprint = other.fingerprint
    ∧ (r.fingerprint = none → (r.controller.caFingerprint r.files).toOption
        = (other.controller.caFingerprint other.files).toOption)
  path : r.controller.platform = .linux → r.installed = other.installed
    ∧ (r.installed = none → r.controller.config.ca.installedPath
      = other.controller.config.ca.installedPath)

/-- They have the same command. -/
theorem Indistinct.issued {other : Removal} (h : Indistinct r other) (hissued : Issued r command) :
    Issued other command := by
  -- each row asks for inputs that the two removals share
  cases hissued with
  | givenPrint hplatform hgiven =>
    rw [h.platform]
    exact .givenPrint (h.platform ▸ hplatform) ((h.print hplatform).1 ▸ hgiven)
  | @configuredPrint f hplatform hgiven hread =>
    obtain ⟨hsame, hconfigured⟩ := h.print hplatform
    have hother := hconfigured hgiven
    rw [hread] at hother
    rw [h.platform]
    exact .configuredPrint (h.platform ▸ hplatform) (hsame ▸ hgiven)
      (toOption_eq_some_iff.mp hother.symm)
  | noPrint hplatform hgiven hread =>
    obtain ⟨hsame, hconfigured⟩ := h.print hplatform
    have hother := hconfigured hgiven
    rw [hread] at hother
    rw [h.platform] at hplatform
    cases hfound : other.controller.caFingerprint other.files with
    | ok f =>
      rw [hfound] at hother
      nomatch hother
    | error fault => exact .noPrint hplatform (hsame ▸ hgiven) hfound
  | givenPath hplatform hgiven =>
    exact .givenPath (h.platform ▸ hplatform) ((h.path hplatform).1 ▸ hgiven)
  | configuredPath hplatform hgiven hconfigured =>
    obtain ⟨hsame, hpath⟩ := h.path hplatform
    exact .configuredPath (h.platform ▸ hplatform) (hsame ▸ hgiven) (hpath hgiven ▸ hconfigured)
  | usualPath hplatform hgiven hconfigured =>
    obtain ⟨hsame, hpath⟩ := h.path hplatform
    exact .usualPath (h.platform ▸ hplatform) (hsame ▸ hgiven) (hpath hgiven ▸ hconfigured)
  | unsupported hplatform => exact .unsupported (h.platform ▸ hplatform)

/-! ## Main statement -/

/-- A removal, with any inputs and over any runner, has one command by the table or none.  That
    command is its one call and the answer is whether it exited with zero; without a command there
    is no call and the answer is no.  The files stay as they are, and a removal that is the same
    in what the platform looks at makes the same calls, with the same answer. -/
theorem removal_goes_by_first_input (r : Removal) (run : Runner σ) (s : σ) :
    ∃ command ok t calls,
      (∀ other, Issued r other ↔ other = command)
      ∧ Ends run s command ok t calls
      ∧ r.serve run.logged (s, []) = (.changed ok, r.files, t, calls)
      ∧ r.serve run s = (.changed ok, r.files, t)
      ∧ ∀ other, Indistinct r other →
        other.serve run.logged (s, []) = (.changed ok, other.files, t, calls)
        ∧ other.serve run s = (.changed ok, other.files, t) := by
  obtain ⟨command, hissued⟩ := exists_issued r
  obtain ⟨calls, hlogged, hends⟩ := ends_runIssued run s command
  refine ⟨command, _, _, calls, fun other => ?_, hends, ?_, hissued.serve_eq run s, ?_⟩
  · rw [issued_iff, ← issued_iff.mp hissued]
  · rw [hissued.serve_eq, hlogged]
  · intro other hsame
    have hother := hsame.issued hissued
    exact ⟨by rw [hother.serve_eq, hlogged], hother.serve_eq run s⟩

/-- A removal on Linux by a path, with a fingerprint and a configured path beside it. -/
def crowdedRemoval : Removal where
  controller :=
    ⟨{ Config.default with ca := { CaConfig.default with installedPath := some usualPath } },
      .linux⟩
  files := FileSystem.emptyRoot.put [Text.encodeUtf8 "data".toList] (.file [] 0o644)
  fingerprint := some (Fingerprint.ofBytes [])
  installed := some (Path.ofString "/tmp/ca.crt")

/-- The path alone. -/
def plainRemoval : Removal where
  controller := ⟨Config.default, .linux⟩
  files := FileSystem.emptyRoot
  fingerprint := none
  installed := some (Path.ofString "/tmp/ca.crt")

/-- Two removals on Linux by the same path, and all else different, do the same. -/
theorem removal_goes_by_first_input_crowded :
    ∃ script, crowdedRemoval.serve (Script.runner false) ⟨[.exit 1], []⟩
        = (.changed false, crowdedRemoval.files, script)
      ∧ plainRemoval.serve (Script.runner false) ⟨[.exit 1], []⟩
        = (.changed false, plainRemoval.files, script) := by
  obtain ⟨command, ok, script, calls, htable, hends, -, hserve, hother⟩ :=
    removal_goes_by_first_input crowdedRemoval (Script.runner false) ⟨[.exit 1], []⟩
  obtain rfl := (htable _).mp (.givenPath rfl rfl)
  have hsame : Indistinct crowdedRemoval plainRemoval :=
    ⟨rfl, fun hplatform => (nomatch hplatform), fun _ => ⟨rfl, fun hgiven => nomatch hgiven⟩⟩
  cases hends with
  | called hok =>
    cases ok with
    | true => nomatch hok.mp rfl
    | false => exact ⟨_, hserve, (hother plainRemoval hsame).2⟩

end ProxyTrust.Controller
