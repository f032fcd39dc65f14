/-
  By what a run of the program removes a certificate, and what a run that shows it tells.

  1. **The handle** — a command line may spell a fingerprint.  If it does not, the removal goes by
     the configured certificate.  `Handle` says which fingerprint that is without running
     anything, and the option of a command line leaves the controller with the same handle
     (`handle_iff_of_given`).

  2. **Removals** — a run that removes goes by its handle: `GoesBy` of the controller carries over
     to the program, whose report is a line of success only where a call was made
     (`uninstallCa_goesBy`).

  3. **What is shown** — a run that shows the certificate from the same files tells the same
     fingerprint: both read the file that the same configuration names, with the same log opened
     before.  Only the platform may differ, and what is read does not depend on it
     (`prepare_congr`, `run_of_showCa`).
-/
import ProxyTrust.Command.Script
import ProxyTrust.Proofs.Authority.CertificateFile
import ProxyTrust.Proofs.Authority.Provision
import ProxyTrust.Proofs.Program.Changes
import ProxyTrust.Proofs.TrustStore.Handle

namespace ProxyTrust.Program

open Authority (Draw newYear smallDraw)
open CommandLine (Invocation)
open TrustStore (GoesBy KnowsFingerprints)

variable {σ : Type} {draw : Draw} {now : Moment} {c : Controller} {fs ready : FileSystem}
  {text : Option String} {f : Fingerprint}

/-! ## The handle of a command line -/

/-- The fingerprint that a command line goes by: the one that its option spells, else that of the
    configured certificate. -/
inductive Handle (c : Controller) (fs : FileSystem) : Option String → Fingerprint → Prop
  | spelled {text : String} {f : Fingerprint} (h : Fingerprint.ofText? text = some f) :
      Handle c fs (some text) f
  | configured {f : Fingerprint} (h : c.caFingerprint fs = .ok f) : Handle c fs none f

/-- An option that can be used leaves it to the controller which fingerprint to go by. -/
theorem handle_iff_of_given {given : Option Fingerprint} (h : givenFingerprint text = .ok given) :
    Handle c fs text f ↔ c.Handle fs given f := by
  cases text with
  | none =>
    obtain rfl := Except.ok.inj h
    constructor
    · rintro ⟨⟩
      next h => exact .configured h
    · rintro ⟨⟩
      next h => exact .configured h
  | some text =>
    rw [givenFingerprint] at h
    split at h
    · next g hg =>
      obtain rfl := Except.ok.inj h
      constructor
      · rintro ⟨⟩
        next hf =>
          rw [hg] at hf
          obtain rfl := Option.some.inj hf
          exact .given g
      · rintro ⟨⟩
        exact .spelled hg
    · nomatch h

/-- An option that cannot be used leaves nothing to go by. -/
theorem not_handle_of_given {fault : Fault} (h : givenFingerprint text = .error fault) :
    ¬ Handle c fs text f := by
  rintro ⟨⟩
  · next hf =>
    rw [givenFingerprint, hf] at h
    nomatch h
  · nomatch h

/-- What an option spells was made by reading a text. -/
theorem made_of_given {given : Option Fingerprint} (h : givenFingerprint text = .ok given) :
    ∀ g, given = some g → g.Made := by
  rintro g rfl
  cases text with
  | none => nomatch h
  | some text =>
    rw [givenFingerprint] at h
    split at h
    · next made hmade =>
      obtain rfl := Option.some.inj (Except.ok.inj h)
      exact .ofText? text hmade
    · nomatch h

/-! ## The removal -/

/-- The line that tells of a removal is in a report exactly where the removal worked. -/
theorem mem_told_iff (ok : Bool) :
    "ca uninstalled" ∈ (Report.told ok "ca uninstalled" "ca uninstall failed").lines
      ↔ ok = true := by
  cases ok with
  | true => exact iff_of_true List.mem_cons_self rfl
  | false =>
    refine iff_of_false (fun h => ?_) Bool.false_ne_true
    exact absurd (List.mem_singleton.mp h) (by decide)

/-- A removal asked for on the command line goes by its handle. -/
theorem uninstallCa_goesBy (fs : FileSystem) (text : Option String)
    (hplatform : KnowsFingerprints c.platform) (tools : Runner σ)
    (installed : Option Path) (s : σ) :
    ∃ report t calls, uninstallCa tools.logged c fs text installed (s, []) = (report, t, calls)
      ∧ uninstallCa tools c fs text installed s = (report, t)
      ∧ GoesBy c.platform (Handle c fs text) calls ("ca uninstalled" ∈ report.lines) := by
  cases hgiven : givenFingerprint text with
  | error fault =>
    -- an option that cannot be used: no call, and nothing to go by
    refine ⟨.failed (.fault fault), s, [], ?_, ?_, ?_, ?_, ?_⟩
    · rw [uninstallCa, hgiven]
    · rw [uninstallCa, hgiven]
    · intro call hcall
      cases hcall
    · refine iff_of_false (fun hcalls => hcalls rfl) ?_
      rintro ⟨f, hf⟩
      exact not_handle_of_given hgiven hf
    · intro hline
      cases hline
  | ok given =>
    -- else the controller removes by the same handle
    obtain ⟨ok, t, calls, hlogged, hplain, hgoes⟩ :=
      c.uninstallCa_goesBy fs hplatform (made_of_given hgiven) tools installed s
    refine ⟨.told ok "ca uninstalled" "ca uninstall failed", t, calls, ?_, ?_, ?_, ?_, ?_⟩
    · rw [uninstallCa, hgiven]
      simp only [hlogged]
    · rw [uninstallCa, hgiven]
      simp only [hplain]
    · intro call hcall
      obtain ⟨f, hf, hnames⟩ := hgoes.names call hcall
      exact ⟨f, (handle_iff_of_given hgiven).mpr hf, hnames⟩
    · rw [hgoes.called_iff]
      exact exists_congr fun f => (handle_iff_of_given hgiven).symm
    · intro hline
      exact hgoes.called_of_worked ((mem_told_iff ok).mp hline)

/-! ## The run that shows -/

/-- A certificate whose fingerprint can be told is shown with it, and nothing is made. -/
theorem showCa_of_caFingerprint (h : c.caFingerprint fs = .ok f) (draw : Draw) (now : Moment) :
    showCa draw now c fs = (.said (shown c.config.ca.certPath f), fs) := by
  have hexists := Authority.exists_of_fingerprintAt h
  have hensured : c.ensureCa draw now fs = (.ok .alreadyPresent, fs) :=
    Authority.ensureFiles_of_exists hexists draw now c.config.ca.keyPath
  rw [showCa, hensured]
  simp only [h]

/-- Where a configuration is loaded and a log opened, the platform has no say in it. -/
theorem prepare_congr {path : Path} {named other : Option Platform} {d : Controller}
    {left : FileSystem} (h : prepare path named fs = (.ok c, ready))
    (hother : prepare path other fs = (.ok d, left)) :
    d.config = c.config ∧ left = ready := by
  obtain ⟨hconfig, hlog, -⟩ := prepare_eq_ok h
  obtain ⟨hconfig', hlog', -⟩ := prepare_eq_ok hother
  have hsame : d.config = c.config := by
    rw [hconfig] at hconfig'
    exact (Except.ok.inj hconfig').symm
  rw [hsame, hlog] at hlog'
  exact ⟨hsame, (Prod.mk.inj hlog').2.symm⟩

/-- A run that shows the certificate under the same configuration tells the fingerprint that a
    removal goes by. -/
theorem run_of_showCa {shower invocation : Invocation} {args : List CommandLine.Argument}
    {d : Controller} {left : FileSystem}
    (hprepare : prepare invocation.config invocation.platform fs = (.ok c, ready))
    (h : c.caFingerprint ready = .ok f) (hshower : Invocation.ofArguments args = .ok shower)
    (hrequest : shower.request = .act .showCa) (hconfig : shower.config = invocation.config)
    (hprepared : prepare shower.config shower.platform fs = (.ok d, left)) (tools : Runner σ)
    (draw : Draw) (now : Moment) (s : σ) :
    run tools draw now args fs s = (.said (shown c.config.ca.certPath f), ready, s) := by
  rw [hconfig] at hprepared
  obtain ⟨hsame, rfl⟩ := prepare_congr hprepare hprepared
  have hfingerprint : d.caFingerprint left = .ok f := by
    rw [Controller.caFingerprint, hsame]
    exact h
  have hshown := showCa_of_caFingerprint hfingerprint draw now
  rw [hsame] at hshown
  simp only [run, hshower, carryOut, hrequest, hconfig, hprepared, act, hshown]

/-! ## Main statement -/

/-- A removal goes by one well-formed fingerprint, over any runner and on both platforms that know
    certificates by it.  A controller goes by the fingerprint that it is given, else by that of
    the configured certificate.  The program goes by the fingerprint that the command line spells,
    in its normal form, else by the one that a run tells which shows the certificate from the same
    files.  Where there is none of these no command is issued, and nothing says that a certificate
    was removed. -/
theorem removal_goes_by_shown_fingerprint :
    (∀ c : Controller, KnowsFingerprints c.platform →
      ∀ (fs : FileSystem) (given : Option Fingerprint), (∀ g, given = some g → g.Made) →
      ∀ {σ : Type} (tools : Runner σ) (installed : Option Path) (s : σ),
        ∃ ok t calls, c.uninstallCa tools.logged fs given installed (s, []) = (ok, t, calls)
          ∧ c.uninstallCa tools fs given installed s = (ok, t)
          ∧ GoesBy c.platform (c.Handle fs given) calls (ok = true))
    ∧ ∀ (args : List CommandLine.Argument) (invocation : Invocation) (text : Option String)
        (installed : Option Path) (c : Controller) (fs ready : FileSystem),
      Invocation.ofArguments args = .ok invocation →
      invocation.request = .act (.uninstallCa text installed) →
      prepare invocation.config invocation.platform fs = (.ok c, ready) →
      KnowsFingerprints c.platform →
      (∀ {σ : Type} (tools : Runner σ) (draw : Draw) (now : Moment) (s : σ),
        ∃ report t calls, run tools.logged draw now args fs (s, []) = (report, ready, t, calls)
          ∧ run tools draw now args fs s = (report, ready, t)
          ∧ GoesBy c.platform (Handle c ready text) calls ("ca uninstalled" ∈ report.lines))
      ∧ ∀ f, Handle c ready text f →
        (∀ spelled, text = some spelled → f.text = Fingerprint.normalize spelled)
        ∧ (text = none →
          ∀ (others : List CommandLine.Argument) (shower : Invocation) (d : Controller)
            (left : FileSystem),
          Invocation.ofArguments others = .ok shower → shower.request = .act .showCa →
          shower.config = invocation.config →
          prepare shower.config shower.platform fs = (.ok d, left) →
          ∀ {σ : Type} (tools : Runner σ) (draw : Draw) (now : Moment) (s : σ),
            run tools draw now others fs s = (.said (shown c.config.ca.certPath f), ready, s)) := by
  constructor
  · intro c hplatform fs given hmade σ tools installed s
    exact c.uninstallCa_goesBy fs hplatform hmade tools installed s
  · intro args invocation text installed c fs ready hargs hrequest hprepare hplatform
    refine ⟨fun tools draw now s => ?_, fun f hf => ⟨?_, ?_⟩⟩
    · obtain ⟨report, t, calls, hlogged, hplain, hgoes⟩ :=
        uninstallCa_goesBy ready text hplatform tools installed s
      refine ⟨report, t, calls, ?_, ?_, hgoes⟩
      · simp only [run, hargs, carryOut, hrequest, hprepare, act, hlogged]
      · simp only [run, hargs, carryOut, hrequest, hprepare, act, hplain]
    · -- the option spells the fingerprint
      rintro spelled rfl
      cases hf with
      | spelled h => exact (Fingerprint.ofText?_eq_some_iff.mp h).2
    · -- there is no option, and another run shows the configured certificate
      rintro rfl others shower d left hshower hshow hconfig hprepared σ tools draw now s
      cases hf with
      | configured h =>
        exact run_of_showCa hprepare h hshower hshow hconfig hprepared tools draw now s

/-! ## A certificate that is kept in the usual place -/

/-- Files with a certificate in the usual place. -/
def keptFiles : FileSystem :=
  ⟨[([Text.encodeUtf8 "data".toList], .directory),
    ([Text.encodeUtf8 "ca.pem".toList, Text.encodeUtf8 "data".toList],
      .file (Text.encodeUtf8 (Pem.blocksText Authority.mixedBlocks).toList) 0o644)], [], 0o022⟩

/-- The same files with the log opened. -/
def keptReady : FileSystem :=
  { keptFiles with entries := ([Logging.usualName], .file [] 0o644) :: keptFiles.entries }

/-- A removal, without a fingerprint on the command line. -/
def keptRemoval : Invocation :=
  ⟨CommandLine.usualConfig, some .macos, .act (.uninstallCa none none)⟩

def keptRemovalArguments : List CommandLine.Argument :=
  [CommandLine.argument "uninstall-ca", CommandLine.argument "--platform=macos"]

/-- The certificate shown, on another platform. -/
def keptShower : Invocation := ⟨CommandLine.usualConfig, some .windows, .act .showCa⟩

def keptShowerArguments : List CommandLine.Argument :=
  [CommandLine.argument "show-ca", CommandLine.argument "--platform=windows"]

/-- A removal without an option starts from these files. -/
theorem kept_prepare :
    prepare keptRemoval.config keptRemoval.platform keptFiles
      = (.ok ⟨Config.default, .macos⟩, keptReady) := by
  rfl

/-- So does a run that shows the certificate, on another platform. -/
theorem kept_prepare_shower :
    prepare keptShower.config keptShower.platform keptFiles
      = (.ok ⟨Config.default, .windows⟩, keptReady) := by
  rfl

/-- The configured certificate is the small one. -/
theorem kept_caFingerprint (platform : Platform) :
    (Controller.mk Config.default platform).caFingerprint keptReady
      = .ok (Fingerprint.ofBytes Authority.smallCertificate) := by
  have hread : keptReady.read Config.default.ca.certPath
      = .ok (Text.encodeUtf8 (Pem.blocksText Authority.mixedBlocks).toList) := rfl
  have haccepted : ∃ certificate, X509.Certificate.read Authority.smallCertificate
      = .ok certificate :=
    ⟨_, rfl⟩
  have hfirst := Authority.fingerprintAt_blocksText Authority.plainLabel_mixedBlocks hread
  exact hfirst.trans (Authority.fingerprintOfCertificate_eq_ok_iff.mpr haccepted)

/-- A script that answers every call with zero. -/
def quietScript : Script := ⟨[], []⟩

/-- The two runs from the same files, and a removal by a given fingerprint. -/
theorem removal_goes_by_shown_fingerprint_kept :
    (∃ report t calls,
      run (Script.runner false).logged smallDraw newYear keptRemovalArguments keptFiles
        (quietScript, [])
        = (report, keptReady, t, calls)
      ∧ calls ≠ []
      ∧ ∀ call ∈ calls, call.command.args.getLast?
        = some ("" ++ (Fingerprint.ofBytes Authority.smallCertificate).text))
    ∧ run (Script.runner false) smallDraw newYear keptShowerArguments keptFiles quietScript
      = (.said (shown Config.default.ca.certPath (Fingerprint.ofBytes Authority.smallCertificate)),
        keptReady, quietScript)
    ∧ ∃ ok t calls,
      (Controller.mk Config.default .windows).uninstallCa (Script.runner false).logged keptFiles
        (some (Fingerprint.ofBytes [1])) none (quietScript, []) = (ok, t, calls)
      ∧ calls ≠ [] := by
  have hkept := kept_caFingerprint .macos
  obtain ⟨hcontroller, hprogram⟩ := removal_goes_by_shown_fingerprint
  obtain ⟨hremoval, hshower⟩ :=
    hprogram keptRemovalArguments keptRemoval none none ⟨Config.default, .macos⟩
      keptFiles keptReady rfl rfl kept_prepare .macos
  refine ⟨?_, ?_, ?_⟩
  · obtain ⟨report, t, calls, hrun, -, hgoes⟩ :=
      hremoval (Script.runner false) smallDraw newYear quietScript
    refine ⟨report, t, calls, hrun, hgoes.called_iff.mpr ⟨_, .configured hkept⟩,
      fun call hcall => ?_⟩
    obtain ⟨f, hf, hnames⟩ := hgoes.names call hcall
    cases hf with
    | configured h =>
      rw [hkept] at h
      obtain rfl := Except.ok.inj h
      exact hnames.last
  · exact (hshower _ (.configured hkept)).2 rfl keptShowerArguments keptShower
      ⟨Config.default, .windows⟩ keptReady rfl rfl rfl kept_prepare_shower
      (Script.runner false) smallDraw newYear quietScript
  · obtain ⟨ok, t, calls, hrun, -, hgoes⟩ :=
      hcontroller ⟨Config.default, .windows⟩ .windows keptFiles
        (some (Fingerprint.ofBytes [1])) (fun g hg => .ofBytes [1] (Option.some.inj hg))
        (Script.runner false) none quietScript
    exact ⟨ok, t, calls, hrun, hgoes.called_iff.mpr ⟨_, .given _⟩⟩

end ProxyTrust.Program
