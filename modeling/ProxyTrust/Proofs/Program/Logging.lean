/-
  Runs that end at their log.

  1. **Actions** — no action ends with an ending that is about the log (`not_aboutLog_act`), so
     that such an ending comes from opening the log alone.  This is by cases on the action: those
     that need an authority may end with a fault of it, which is about its own files.

  2. **The log** — a run goes on, or ends at its log in one of two ways (`run_cases_of_log`).
     `log_crashes_run_iff`: it crashes there exactly if the directory could be made and the file
     could not be opened.  A directory that could not be made is told instead.  Either way no
     program was called.

  3. **An example** — a directory in the place of the log is there from the start, and so the run
     crashes without having changed anything.
-/
import ProxyTrust.Proofs.Authority.DateLimits
import ProxyTrust.Proofs.Logging.Opening
import ProxyTrust.Proofs.Program.Footprint

namespace ProxyTrust.Program

open Authority (Draw newYear smallDraw)
open CommandLine (Action Invocation chosenEndpoint)
open FileSystem (Furnished)
open Logging (blamed directory hindrance openFile startFrom)

variable {σ : Type} {tools : Runner σ} {draw : Draw} {now : Moment}
  {args : List CommandLine.Argument} {fs made files : FileSystem} {s t : σ}
  {invocation : Invocation} {action : Action} {config : Config} {report : Report} {c : Controller}

/-! ## Actions -/

/-- An ending that is about the log. -/
inductive Ending.AboutLog : Ending → Prop
  | directory (path : Path) (source : IoError) : AboutLog (.failure (.logDirectory path source))
  | file (path : Path) (source : IoError) : AboutLog (.crash (.logFile path source))

/-- An authority that is not made stops for another reason. -/
theorem not_aboutLog_unprovisioned {stop : Stop} (h : (c.ensureCa draw now fs).1 = .error stop) :
    ¬ (Report.unprovisioned stop).ending.AboutLog := by
  cases stop with
  | fault fault => rintro ⟨⟩
  | crash crash =>
    have hcrash : crash = .dateRange ∨ crash = .timeForm := by
      cases hended : c.ensureCa draw now fs with
      | mk outcome after =>
        rw [hended] at h
        obtain rfl : outcome = _ := h
        cases Authority.ensureFiles_eq_iff.mp hended with
        | crashed _ _ hgenerate => exact Authority.crash_of_generate hgenerate
    rcases hcrash with rfl | rfl
    · rintro ⟨⟩
    · rintro ⟨⟩

/-- No action ends with an ending that is about the log. -/
theorem not_aboutLog_act (run : Runner σ) (draw : Draw) (now : Moment) (c : Controller)
    (action : Action) (fs : FileSystem) (s : σ) :
      ¬ (act run draw now c action fs s).1.ending.AboutLog := by
  have hstopped {stop : Stop} {after : FileSystem}
      (h : c.ensureCa draw now fs = (.error stop, after)) :
      ¬ (Report.unprovisioned stop).ending.AboutLog :=
    not_aboutLog_unprovisioned (congrArg Prod.fst h)
  cases action with
  | ensureCa =>
    rw [act, ensureCa]
    cases hensured : c.ensureCa draw now fs with
    | mk outcome after =>
      cases outcome with
      | error stop => exact hstopped hensured
      | ok outcome => rintro ⟨⟩
  | showCa =>
    rw [act, showCa]
    cases hensured : c.ensureCa draw now fs with
    | mk outcome after =>
      cases outcome with
      | error stop => exact hstopped hensured
      | ok outcome =>
        dsimp only
        cases c.caFingerprint after with
        | error fault => rintro ⟨⟩
        | ok fingerprint => rintro ⟨⟩
  | installCa =>
    rw [act, installCa, Controller.installCa]
    cases hensured : c.ensureCa draw now fs with
    | mk outcome after =>
      cases outcome with
      | error stop => exact hstopped hensured
      | ok outcome => rintro ⟨⟩
  | uninstallCa text installed =>
    rw [act, uninstallCa]
    cases givenFingerprint text with
    | error fault => rintro ⟨⟩
    | ok fingerprint => rintro ⟨⟩
  | enableProxy host port =>
    rw [act, enableProxy]
    cases chosenEndpoint c.config host port with
    | error fault => rintro ⟨⟩
    | ok e => rintro ⟨⟩
  | disableProxy => rintro ⟨⟩

/-! ## The log -/

/-- A run with an action, once there is a configuration: the log, the platform, the action. -/
theorem run_eq_of_config (hargs : Invocation.ofArguments args = .ok invocation)
    (haction : invocation.request = .act action)
    (hconfig : Config.load fs invocation.config = .ok config) :
    run tools draw now args fs s =
      match Logging.start fs config.logPath with
      | (.error (.noDirectory path source), made) => (.failed (.logDirectory path source), made, s)
      | (.error (.crash crash), made) => (⟨[], .crash crash⟩, made, s)
      | (.ok (), ready) =>
        match Config.resolvePlatform invocation.platform config with
        | .error name => (.failed (.platform name), ready, s)
        | .ok platform => act tools draw now ⟨config, platform⟩ action ready s := by
  simp only [run, hargs, carryOut, haction, prepare, hconfig]
  rcases Logging.start fs config.logPath with ⟨(⟨path, source⟩ | crash) | _, left⟩
  · rfl
  · rfl
  · dsimp only
    cases Config.resolvePlatform invocation.platform config with
    | error name => rfl
    | ok platform => rfl

/-- The three ways of a log: its directory cannot be made, its file cannot be opened there, or it
    is open. -/
theorem run_cases_of_log {outcome : Except IoError Unit} (tools : Runner σ) (draw : Draw)
    (now : Moment) (s : σ) (hargs : Invocation.ofArguments args = .ok invocation)
    (haction : invocation.request = .act action)
    (hconfig : Config.load fs invocation.config = .ok config)
    (hmade : fs.makeDirectories (directory config.logPath) = (outcome, made)) :
    (∃ source, outcome = .error source ∧ run tools draw now args fs s
      = (.failed (.logDirectory (directory config.logPath) source), made, s))
    ∨ (∃ source, outcome = .ok () ∧ openFile made config.logPath = .error source
      ∧ run tools draw now args fs s
        = (⟨[], .crash (.logFile (blamed config.logPath) source)⟩, made, s))
    ∨ (∃ ready, outcome = .ok () ∧ openFile made config.logPath = .ok ready
      ∧ ¬ (run tools draw now args fs s).1.ending.AboutLog) := by
  rw [run_eq_of_config hargs haction hconfig, Logging.start_eq, hmade]
  cases outcome with
  | error source => exact .inl ⟨source, rfl, rfl⟩
  | ok _ =>
    dsimp only
    cases hopen : openFile made config.logPath with
    | error source => exact .inr (.inl ⟨source, rfl, rfl, rfl⟩)
    | ok ready =>
      refine .inr (.inr ⟨ready, rfl, rfl, ?_⟩)
      dsimp only
      cases Config.resolvePlatform invocation.platform config with
      | error name => rintro ⟨⟩
      | ok platform => exact not_aboutLog_act tools draw now _ action ready s

/-- What an ending that is about the log tells, and what such a run leaves. -/
theorem endings_of_log {outcome : Except IoError Unit}
    (hargs : Invocation.ofArguments args = .ok invocation)
    (haction : invocation.request = .act action)
    (hconfig : Config.load fs invocation.config = .ok config)
    (hmade : fs.makeDirectories (directory config.logPath) = (outcome, made))
    (hrun : run tools draw now args fs s = (report, files, t)) :
    ((∃ path source, report.ending = .crash (.logFile path source))
      ↔ outcome = .ok () ∧ ∃ source, openFile made config.logPath = .error source)
    ∧ ((∃ path source, report.ending = .failure (.logDirectory path source))
      ↔ ∃ source, outcome = .error source)
    ∧ (report.ending.AboutLog → report.lines = [] ∧ files = made ∧ t = s) := by
  have hends := run_cases_of_log tools draw now s hargs haction hconfig hmade
  rw [hrun] at hends
  rcases hends
    with ⟨source, rfl, hended⟩ | ⟨source, rfl, hopen, hended⟩ | ⟨ready, rfl, hopen, habout⟩
  · obtain ⟨rfl, hleft⟩ := Prod.mk.inj hended
    obtain ⟨rfl, rfl⟩ := Prod.mk.inj hleft
    exact ⟨iff_of_false (fun ⟨_, _, h⟩ => nomatch h) (fun h => nomatch h.1),
      iff_of_true ⟨_, source, rfl⟩ ⟨source, rfl⟩, fun _ => ⟨rfl, rfl, rfl⟩⟩
  · obtain ⟨rfl, hleft⟩ := Prod.mk.inj hended
    obtain ⟨rfl, rfl⟩ := Prod.mk.inj hleft
    exact ⟨iff_of_true ⟨_, source, rfl⟩ ⟨rfl, source, hopen⟩,
      iff_of_false (fun ⟨_, _, h⟩ => nomatch h) (fun ⟨_, h⟩ => nomatch h), fun _ => ⟨rfl, rfl, rfl⟩⟩
  · -- the log is open, so the ending is that of the platform or of the action
    refine ⟨iff_of_false ?_ ?_, iff_of_false ?_ (fun ⟨_, h⟩ => nomatch h), fun h => absurd h habout⟩
    · rintro ⟨path, source, hending⟩
      exact habout (hending ▸ .file path source)
    · rintro ⟨-, source, hfails⟩
      nomatch hopen.symm.trans hfails
    · rintro ⟨path, source, hending⟩
      exact habout (hending ▸ .directory path source)

/-- When a run with an action crashes at its log.  The directory is made first, and a failure of
    that is told.  Then the file is opened, and where that fails the run crashes: at every path of
    a directory, and unless a link has the name of the file exactly for the reasons in
    `hindrance`.  Either way nothing is printed, no program is called, and of the files only
    directories are new.  Starting goes by two answers alone, so that a system with other reasons
    not to open a file crashes the run for them as well. -/
theorem log_crashes_run_iff {outcome : Except IoError Unit}
    (hargs : Invocation.ofArguments args = .ok invocation)
    (haction : invocation.request = .act action)
    (hconfig : Config.load fs invocation.config = .ok config)
    (hmade : fs.makeDirectories (directory config.logPath) = (outcome, made))
    (hrun : run tools draw now args fs s = (report, files, t)) :
    ((∃ path source, report.ending = .crash (.logFile path source))
      ↔ outcome = .ok () ∧ ∃ source, openFile made config.logPath = .error source)
    ∧ ((∃ path source, report.ending = .failure (.logDirectory path source))
      ↔ ∃ source, outcome = .error source)
    ∧ (report.ending.AboutLog → report.lines = [] ∧ files = made ∧ t = s ∧ Furnished fs files)
    ∧ (outcome = .ok () → ∃ here, made.find (directory config.logPath) = .ok here
      ∧ ((∀ target, made.at? (Logging.name config.logPath :: here) ≠ some (.link target)) →
        ∀ source, openFile made config.logPath = .error source
          ↔ hindrance made here config.logPath = some source))
    ∧ (made.isDirectory (Logging.file config.logPath) = true →
      ∃ source, openFile made config.logPath = .error source)
    ∧ (Logging.start fs config.logPath).1
      = startFrom config.logPath (Logging.answers fs config.logPath)
    ∧ ∀ answers : Logging.Answers,
      ((∃ path source, startFrom config.logPath answers = .error (.crash (.logFile path source)))
        ↔ answers.directory = .ok () ∧ ∃ source, answers.file = .error source) := by
  obtain ⟨hcrash, hfailure, hleft⟩ := endings_of_log hargs haction hconfig hmade hrun
  refine ⟨hcrash, hfailure, fun habout => ?_, ?_, Logging.openFile_of_isDirectory,
    Logging.outcome_eq_startFrom fs config.logPath, Logging.startFrom_crashes_iff config.logPath⟩
  · obtain ⟨hlines, rfl, hstate⟩ := hleft habout
    have hfurnished := FileSystem.furnished_makeDirectories fs (directory config.logPath)
    rw [hmade] at hfurnished
    exact ⟨hlines, rfl, hstate, hfurnished⟩
  · rintro rfl
    obtain ⟨here, hfind, hdirectory⟩ := Logging.find_directory hmade
    exact ⟨here, hfind, fun hlink source => Logging.openFile_eq_error_iff hfind hdirectory hlink⟩

/-! ## A directory in the place of the log -/

/-- A root with a directory that has the usual name of a log. -/
def blockedFiles : FileSystem := FileSystem.emptyRoot.put [Logging.usualName] .directory

/-- The proxy setting is to be taken back. -/
def disableArguments : List CommandLine.Argument :=
  [CommandLine.argument "proxy", CommandLine.argument "disable"]

/-- The request that these arguments make. -/
def disableInvocation : Invocation := ⟨CommandLine.usualConfig, none, .act .disableProxy⟩

/-- The file that cannot be opened is the directory. -/
theorem log_crashes_run_iff_blocked :
    Invocation.ofArguments disableArguments = .ok disableInvocation
      ∧ disableInvocation.request = .act .disableProxy
      ∧ Config.load blockedFiles disableInvocation.config = .ok .default
      ∧ blockedFiles.makeDirectories (directory Config.default.logPath) = (.ok (), blockedFiles)
      ∧ ∃ report files t, run (Script.runner false) smallDraw newYear disableArguments blockedFiles
        ⟨[], []⟩
          = (report, files, t)
        ∧ (∃ path source, report.ending = .crash (.logFile path source))
        ∧ openFile blockedFiles Config.default.logPath = .error .isDirectory := by
  have hmade : blockedFiles.makeDirectories (directory Config.default.logPath)
      = (.ok (), blockedFiles) := rfl
  have hopen : openFile blockedFiles Config.default.logPath = .error .isDirectory := rfl
  have hargs : Invocation.ofArguments disableArguments = .ok disableInvocation := rfl
  have haction : disableInvocation.request = .act .disableProxy := rfl
  have hconfig : Config.load blockedFiles disableInvocation.config = .ok .default := rfl
  obtain ⟨report, files, t, hrun⟩ : ∃ report files t,
      run (Script.runner false) smallDraw newYear disableArguments blockedFiles ⟨[], []⟩
        = (report, files, t) :=
    ⟨_, _, _, rfl⟩
  obtain ⟨hcrash, -⟩ := log_crashes_run_iff hargs haction hconfig hmade hrun
  exact ⟨hargs, haction, hconfig, hmade, report, files, t, hrun, hcrash.mpr ⟨rfl, _, hopen⟩, hopen⟩

/-- The run ends with the status of a crash and without an error of its own. -/
theorem run_crashes_at_blocked_log :
    run (Script.runner false) smallDraw newYear disableArguments blockedFiles ⟨[], []⟩
        = (⟨[], .crash (.logFile (Path.ofString "./terasu-controller.log") .isDirectory)⟩,
          blockedFiles, ⟨[], []⟩)
      ∧ (Ending.crash (.logFile (Path.ofString "./terasu-controller.log") .isDirectory)).status
        = 101
      ∧ (Ending.crash (.logFile (Path.ofString "./terasu-controller.log") .isDirectory)).error?
        = none :=
  ⟨rfl, rfl, rfl⟩

end ProxyTrust.Program
