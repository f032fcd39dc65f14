/-
  Which places a run of the program may have changed.

  What a run changes is said by `Touches paths fs fs'`: nothing but the files at these paths and
  missing directories above them.  Such steps follow each other, and more paths only say less, so
  that a run has the footprint of its parts together.

  1. **Own files** — the log file is every action's own.  Those that need an authority have its
     two files as well.

  2. **Actions** — the only thing that an action does to files is to provide the authority
     (`act_files`).  So an action touches its own files, and the ones of an authority that is
     there not at all.

  3. **A new configuration** — writing one touches the configuration file, and reads no file.

  4. **Runs** — opening the log comes before the action and touches the log file.
     `run_touches_own_files`: a run changes nothing but its own files and missing directories
     above them, and nothing at all before its configuration was read.
-/
import ProxyTrust.Command.Script
import ProxyTrust.Program
import ProxyTrust.Proofs.Authority.Provision
import ProxyTrust.Proofs.Config.Template
import ProxyTrust.Proofs.Logging

namespace ProxyTrust.Program

open Authority (Draw newYear smallDraw)
open CommandLine (Action Invocation)
open FileSystem (Alike AlikeEnd Touches emptyRoot isTree_emptyRoot)

variable {σ : Type} {fs other ready : FileSystem} {config : Config} {c : Controller}
  {action : Action} {path : Path} {named : Option Platform}

/-! ## Own files -/

/-- The action makes an authority if there is none. -/
def needsAuthority : Action → Bool
  | .ensureCa | .showCa | .installCa => true
  | .uninstallCa _ _ | .enableProxy _ _ | .disableProxy => false

/-- The files that an action may write. -/
def ownFiles (config : Config) (action : Action) : List Path :=
  Logging.file config.logPath
    :: if needsAuthority action then config.ca.certPath :: config.ca.keyPath.toList else []

theorem logFile_mem_ownFiles (config : Config) (action : Action) :
    [Logging.file config.logPath] ⊆ ownFiles config action :=
  fun _ hmem => List.mem_singleton.mp hmem ▸ List.mem_cons_self

/-- An action that needs no authority has the log alone. -/
theorem ownFiles_of_not_needsAuthority (hnone : needsAuthority action = false) (config : Config) :
    ownFiles config action = [Logging.file config.logPath] := by
  rw [ownFiles, hnone]
  rfl

/-! ## Actions -/

/-- What an action leaves is what provisioning leaves, or what it found. -/
theorem act_files (run : Runner σ) (draw : Draw) (now : Moment) (c : Controller) (action : Action)
    (fs : FileSystem) (s : σ) :
    (act run draw now c action fs s).2.1
      = if needsAuthority action then (c.ensureCa draw now fs).2 else fs := by
  cases action with
  | ensureCa =>
    simp only [act, ensureCa]
    split
    · next hensured => rw [hensured]; rfl
    · next hensured => rw [hensured]; rfl
  | showCa =>
    simp only [act, showCa]
    split
    · next hensured => rw [hensured]; rfl
    · next hensured =>
      rw [hensured]
      split
      · rfl
      · rfl
  | installCa =>
    simp only [act, installCa, Controller.installCa]
    -- whatever the installation does is done after the authority is there
    cases hensured : c.ensureCa draw now fs with
    | mk outcome left => cases outcome <;> rfl
  | uninstallCa => rfl
  | enableProxy => rfl
  | disableProxy => rfl

/-- An action touches its own files. -/
theorem touches_act (htree : fs.IsTree) (run : Runner σ) (draw : Draw) (now : Moment)
    (c : Controller) (action : Action) (s : σ) :
    Touches (ownFiles c.config action) fs (act run draw now c action fs s).2.1 := by
  rw [act_files, ownFiles]
  split
  · exact (Authority.touches_ensureFiles htree draw now _ _).mono (List.subset_cons_self ..)
  · exact .refl _ fs

/-- An action changes nothing where something is at the path of the certificate. -/
theorem act_of_exists (hexists : fs.pathExists c.config.ca.certPath = true) (run : Runner σ)
    (draw : Draw) (now : Moment) (action : Action) (s : σ) :
    (act run draw now c action fs s).2.1 = fs := by
  rw [act_files, Controller.ensureCa, Authority.ensureFiles_of_exists hexists]
  exact ite_self fs

/-! ## A new configuration -/

/-- Writing a new configuration touches its file, and the directories above it. -/
theorem touches_init (htree : fs.IsTree) (path : Path) (force : Bool) :
    Touches [path] fs (init path force fs).2 := by
  have htouched := (Config.initialised_init fs path force).touches htree
  rw [init]
  split
  · next heq =>
    rw [heq] at htouched
    exact htouched
  · next heq =>
    rw [heq] at htouched
    exact htouched

/-- Writing a new configuration does not depend on what any file holds. -/
theorem init_alike (h : Alike fs other) (path : Path) (force : Bool) :
    AlikeEnd (init path force fs) (init path force other) := by
  have hended := Config.init_alike h path force
  rw [init, init]
  generalize Config.init fs path force = ended at hended ⊢
  generalize Config.init other path force = otherEnded at hended ⊢
  cases hended with
  | @same outcome left otherLeft hleft =>
    cases outcome with
    | error => exact .same hleft
    | ok => exact .same hleft

/-! ## Runs -/

/-- What comes before an action touches the log file, once there is a configuration. -/
theorem touches_prepare (htree : fs.IsTree) (hconfig : Config.load fs path = .ok config)
    (named : Option Platform) :
    Touches [Logging.file config.logPath] fs (prepare path named fs).2
      ∧ ∀ c, (prepare path named fs).1 = .ok c → c.config = config := by
  have hlog := Logging.touches_start htree config.logPath
  rw [prepare, hconfig]
  simp only
  split
  · next heq =>
    rw [heq] at hlog
    exact ⟨hlog, fun c hok => nomatch hok⟩
  · next heq =>
    rw [heq] at hlog
    exact ⟨hlog, fun c hok => nomatch hok⟩
  · next heq =>
    rw [heq] at hlog
    split
    · exact ⟨hlog, fun c hok => nomatch hok⟩
    · refine ⟨hlog, fun c hok => ?_⟩
      obtain rfl := Except.ok.inj hok
      rfl

/-- A run with an action, once there is a configuration, touches the action's own files, and where
    something is at the path of the certificate the log file alone. -/
theorem touches_carryOut {invocation : Invocation} (htree : fs.IsTree)
    (haction : invocation.request = .act action)
    (hconfig : Config.load fs invocation.config = .ok config) (run : Runner σ) (draw : Draw)
    (now : Moment) (s : σ) :
    Touches (ownFiles config action) fs (carryOut run draw now invocation fs s).2.1
      ∧ (fs.pathExists config.ca.certPath = true →
        Touches [Logging.file config.logPath] fs (carryOut run draw now invocation fs s).2.1) := by
  obtain ⟨hready, hsame⟩ := touches_prepare htree hconfig invocation.platform
  have hown := hready.mono (logFile_mem_ownFiles config action)
  simp only [carryOut, haction]
  split
  · next hprepare =>
    rw [hprepare] at hready hown
    exact ⟨hown, fun _ => hready⟩
  · -- what is at the path of the certificate is still there when the action begins
    next c ready hprepare =>
    rw [hprepare] at hready hown hsame
    obtain rfl := hsame c rfl
    refine ⟨hown.trans (touches_act (hready.grows.isTree htree) run draw now c action s),
      fun hexists => ?_⟩
    rw [act_of_exists (hready.grows.pathExists hexists)]
    exact hready

/-- The file system after a run. -/
def filesAfter (tools : Runner σ) (draw : Draw) (now : Moment) (args : List CommandLine.Argument)
    (fs : FileSystem) (s : σ) : FileSystem :=
  (run tools draw now args fs s).2.1

/-- A run changes its own files and missing directories above them alone, however it ends, and
    whatever the tools answer.

    A command line that is refused changes nothing.  A new configuration touches its file, and
    ends the same way whatever files hold.  Before an action nothing changes unless a
    configuration could be read.  Then the action touches the log file; one that needs an
    authority touches the certificate and the key as well, unless something was at the path of the
    certificate.  For all others, every file there is in the end was there before with the same
    content, or is the log file. -/
theorem run_touches_own_files (htree : fs.IsTree) (tools : Runner σ) (draw : Draw) (now : Moment)
    (args : List CommandLine.Argument) (s : σ) :
    (∀ refusal, Invocation.ofArguments args = .error refusal →
      filesAfter tools draw now args fs s = fs)
    ∧ ∀ invocation, Invocation.ofArguments args = .ok invocation →
      (∀ force, invocation.request = .init force →
        Touches [invocation.config] fs (filesAfter tools draw now args fs s)
        ∧ ∀ other, Alike fs other →
          (run tools draw now args other s).1 = (run tools draw now args fs s).1
          ∧ Alike (filesAfter tools draw now args fs s) (filesAfter tools draw now args other s))
      ∧ ∀ action, invocation.request = .act action →
        (∀ fault, Config.load fs invocation.config = .error fault →
          filesAfter tools draw now args fs s = fs)
        ∧ ∀ config, Config.load fs invocation.config = .ok config →
          Touches (ownFiles config action) fs (filesAfter tools draw now args fs s)
          ∧ (fs.pathExists config.ca.certPath = true →
            Touches [Logging.file config.logPath] fs (filesAfter tools draw now args fs s))
          ∧ (needsAuthority action = false → ∀ place content mode,
            (filesAfter tools draw now args fs s).at? place = some (.file content mode) →
            (filesAfter tools draw now args fs s).find (Logging.file config.logPath) ≠ .ok place →
            fs.at? place = some (.file content mode)) := by
  refine ⟨fun refusal hrefused => ?_, fun invocation hinvocation => ⟨fun force hinit => ?_,
    fun action haction => ?_⟩⟩
  · -- refused arguments change nothing
    simp only [filesAfter, run, hrefused]
  · have hrun (files : FileSystem) : run tools draw now args files s
        = ((init invocation.config force files).1, (init invocation.config force files).2, s) := by
      simp only [run, hinvocation, carryOut, hinit]
    simp only [filesAfter, hrun]
    exact ⟨touches_init htree invocation.config force,
      fun other halike =>
        have hended := init_alike halike invocation.config force
        ⟨hended.outcome_eq, hended.alike⟩⟩
  · have hrun : filesAfter tools draw now args fs s
        = (carryOut tools draw now invocation fs s).2.1 := by
      simp only [filesAfter, run, hinvocation]
    rw [hrun]
    -- an action, without a configuration or with one
    refine ⟨fun fault hfault => ?_, fun config hconfig => ?_⟩
    · simp only [carryOut, haction, prepare, hfault]
    · obtain ⟨hown, hlog⟩ := touches_carryOut htree haction hconfig tools draw now s
      refine ⟨hown, hlog, fun hnone place content mode hat hother =>
        hown.file_kept hat fun p hp => ?_⟩
      rw [ownFiles_of_not_needsAuthority hnone] at hp
      rwa [List.mem_singleton.mp hp]

/-! ## An authority in an empty root -/

/-- An authority is asked for. -/
def provisionArguments : List CommandLine.Argument := [CommandLine.argument "ensure-ca"]

/-- The request that these arguments make. -/
def provisionInvocation : Invocation := ⟨CommandLine.usualConfig, none, .act .ensureCa⟩

/-- A run that generates an authority in an empty root. -/
theorem run_touches_own_files_emptyRoot :
    emptyRoot.IsTree
    ∧ Invocation.ofArguments provisionArguments = .ok provisionInvocation
    ∧ Config.load emptyRoot provisionInvocation.config = .ok .default
    ∧ Touches (ownFiles .default .ensureCa) emptyRoot
      (filesAfter (Script.runner false) smallDraw newYear provisionArguments emptyRoot
        ⟨[], []⟩) := by
  obtain ⟨-, hruns⟩ :=
    run_touches_own_files isTree_emptyRoot (Script.runner false) smallDraw newYear
      provisionArguments ⟨[], []⟩
  obtain ⟨-, hacts⟩ := hruns provisionInvocation rfl
  exact ⟨isTree_emptyRoot, rfl, rfl, ((hacts .ensureCa rfl).2 .default rfl).1⟩

end ProxyTrust.Program
