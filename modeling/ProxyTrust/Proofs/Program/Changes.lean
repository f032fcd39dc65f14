/-
  What a run of the program changes about the system.

  Most runs change nothing: they are refused, or fail on the way, or are about files alone.  A run
  that does change something first goes through its arguments, its configuration, its log and its
  platform, none of which calls a runner.  So what it comes to can be said before any program is
  called.

  1. **Lines** — each change has a line for its success and one for its failure, and no line of
     the one kind is a line of the other, so that the last line of a run can be read backwards.

  2. **Actions** — `change?` is the change that an action comes to, of the kind of the action.  An
     action makes exactly that change and reports on it (`act_of_change`), or it comes to none and
     calls no runner (`act_of_no_change`).  Both are by cases on the action.

  3. **Runs** — `asked?` is the change that a whole command line comes to, if it comes to one.  A
     run makes exactly that change and tells how it went (`run_of_asked`); any other run never
     calls the runner (`run_of_not_asked`).

  The statements hold for one report and all runners at once, so that two runs over different
  runners can be compared.
-/
import ProxyTrust.Program
import ProxyTrust.Proofs.Controller.Requests

namespace ProxyTrust.Program

open Authority (Draw)
open CommandLine (Action Invocation chosenEndpoint)

/-! ## Lines -/

/-- The line that tells that a change worked. -/
def successLine : Change → String
  | .enable _ => "system proxy enabled"
  | .disable => "system proxy disabled"
  | .install _ => "ca installed"
  | .uninstall _ _ => "ca uninstalled"

/-- The line that tells that it did not. -/
def failureLine : Change → String
  | .enable _ => "system proxy enable failed"
  | .disable => "system proxy disable failed"
  | .install _ => "ca install failed"
  | .uninstall _ _ => "ca uninstall failed"

theorem successLine_ne_failureLine (change other : Change) :
    successLine change ≠ failureLine other := by
  -- No line is both, whatever the changes carry.
  have hlines :
      ∀ said ∈ ["system proxy enabled", "system proxy disabled", "ca installed", "ca uninstalled"],
        said ∉ ["system proxy enable failed", "system proxy disable failed", "ca install failed",
          "ca uninstall failed"] := by decide
  have hsaid : successLine change
      ∈ ["system proxy enabled", "system proxy disabled", "ca installed", "ca uninstalled"] := by
    cases change <;> simp [successLine]
  have hother : failureLine other ∈ ["system proxy enable failed", "system proxy disable failed",
      "ca install failed", "ca uninstall failed"] := by
    cases other <;> simp [failureLine]
  intro heq
  exact hlines _ hsaid (heq ▸ hother)

/-- The report on a change. -/
def Report.onChange (ok : Bool) (change : Change) : Report :=
  .told ok (successLine change) (failureLine change)

/-- A line of success is printed after a success alone. -/
theorem successLine_mem_onChange {ok : Bool} {change other : Change}
    (h : successLine other ∈ (Report.onChange ok change).lines) : ok = true := by
  cases ok with
  | true => rfl
  | false => exact absurd (List.mem_singleton.mp h) (successLine_ne_failureLine other change)

/-! ## Actions -/

/-- The action is about the system and not about files alone. -/
def ChangesSystem : Action → Prop
  | .ensureCa => False
  | .showCa => False
  | .installCa => True
  | .uninstallCa _ _ => True
  | .enableProxy _ _ => True
  | .disableProxy => True

/-- What an action asks of the controller about the system, if its options can be used. -/
def request? (draw : Draw) (now : Moment) (c : Controller) : Action → Option Controller.Request
  | .ensureCa => none
  | .showCa => none
  | .installCa => some (.installCa draw now)
  | .uninstallCa text installed =>
    (givenFingerprint text).toOption.map fun fingerprint => .uninstallCa fingerprint installed
  | .enableProxy host port => (chosenEndpoint c.config host port).toOption.map .enableProxy
  | .disableProxy => some .disableProxy

/-- The change that an action comes to. -/
def change? (draw : Draw) (now : Moment) (c : Controller) (fs : FileSystem) (action : Action) :
    Option Change :=
  (request? draw now c action).bind (·.change? c fs)

/-- The change is of the kind that the action is for. -/
inductive Concerns : Action → Change → Prop
  | install (certificate : Path) : Concerns .installCa (.install certificate)
  | uninstall (text : Option String) (given : Option Path) (fingerprint : Option Fingerprint)
      (installed : Option Path) :
        Concerns (.uninstallCa text given) (.uninstall fingerprint installed)
  | enable (host : Option String) (port : Option Nat) (e : Endpoint) :
      Concerns (.enableProxy host port) (.enable e)
  | disable : Concerns .disableProxy .disable

variable {draw : Draw} {now : Moment} {c : Controller} {fs : FileSystem} {action : Action}
  {change : Change}

/-- An action comes to a change of its own kind. -/
theorem concerns_of_change (h : change? draw now c fs action = some change) :
    Concerns action change := by
  rw [change?] at h
  obtain ⟨request, hrequest, hchange⟩ := Option.bind_eq_some_iff.mp h
  cases action with
  | ensureCa => cases hrequest
  | showCa => cases hrequest
  | installCa =>
    obtain rfl := Option.some.inj hrequest
    -- whatever certificate it installs
    rw [Controller.Request.change?] at hchange
    split at hchange
    · cases hchange
    · obtain rfl := Option.some.inj hchange
      exact .install _
  | uninstallCa text installed =>
    obtain ⟨fingerprint, -, rfl⟩ := Option.map_eq_some_iff.mp hrequest
    obtain rfl := Option.some.inj hchange
    exact .uninstall ..
  | enableProxy host port =>
    obtain ⟨e, -, rfl⟩ := Option.map_eq_some_iff.mp hrequest
    obtain rfl := Option.some.inj hchange
    exact .enable ..
  | disableProxy =>
    obtain rfl := Option.some.inj hrequest
    obtain rfl := Option.some.inj hchange
    exact .disable

/-- An action that comes to a change makes it and reports on it. -/
theorem act_of_change (h : change? draw now c fs action = some change) :
    ∃ files, ∀ {σ : Type} (run : Runner σ) (s : σ),
      act run draw now c action fs s
        = (.onChange (change.perform run c.platform s).1 change, files,
          (change.perform run c.platform s).2) := by
  cases action with
  | ensureCa => nomatch h
  | showCa => nomatch h
  | installCa =>
    -- only an installation does something to files first, and it goes on where that succeeded
    cases hensured : c.ensureCa draw now fs with
    | mk outcome left =>
      cases outcome with
      | error stop => simp [change?, request?, Controller.Request.change?, hensured] at h
      | ok outcome =>
        simp only [change?, request?, Option.bind_some, Controller.Request.change?, hensured] at h
        obtain rfl := Option.some.inj h
        refine ⟨left, fun run s => ?_⟩
        rw [act, installCa, Controller.installCa, hensured]
        rfl
  | uninstallCa text installed =>
    cases hgiven : givenFingerprint text with
    | error fault => simp [change?, request?, hgiven, Except.toOption] at h
    | ok fingerprint =>
      simp only [change?, request?, hgiven, Except.toOption, Option.map_some, Option.bind_some,
        Controller.Request.change?] at h
      obtain rfl := Option.some.inj h
      refine ⟨fs, fun run s => ?_⟩
      rw [act, uninstallCa, hgiven]
      rfl
  | enableProxy host port =>
    cases hchosen : chosenEndpoint c.config host port with
    | error fault => simp [change?, request?, hchosen, Except.toOption] at h
    | ok e =>
      simp only [change?, request?, hchosen, Except.toOption, Option.map_some, Option.bind_some,
        Controller.Request.change?] at h
      obtain rfl := Option.some.inj h
      refine ⟨fs, fun run s => ?_⟩
      rw [act, enableProxy, hchosen]
      rfl
  | disableProxy =>
    obtain rfl := Option.some.inj h
    exact ⟨fs, fun run s => rfl⟩

/-- An action that comes to no change does not call the runner, and one that is about the system
    then prints nothing. -/
theorem act_of_no_change (h : change? draw now c fs action = none) :
    ∃ report files, (∀ {σ : Type} (run : Runner σ) (s : σ),
      act run draw now c action fs s = (report, files, s))
      ∧ (ChangesSystem action → report.lines = []) := by
  cases action with
  | ensureCa => exact ⟨_, _, fun run s => rfl, fun hsystem => hsystem.elim⟩
  | showCa => exact ⟨_, _, fun run s => rfl, fun hsystem => hsystem.elim⟩
  | installCa =>
    -- an installation comes to nothing exactly where the authority could not be provided
    cases hensured : c.ensureCa draw now fs with
    | mk outcome left =>
      cases outcome with
      | ok outcome => simp [change?, request?, Controller.Request.change?, hensured] at h
      | error stop =>
        refine ⟨.unprovisioned stop, left, fun run s => ?_, fun _ => ?_⟩
        · rw [act, installCa, Controller.installCa, hensured]
        · cases stop <;> rfl
  | uninstallCa text installed =>
    cases hgiven : givenFingerprint text with
    | ok fingerprint =>
      simp [change?, request?, hgiven, Except.toOption, Controller.Request.change?] at h
    | error fault =>
      refine ⟨.failed (.fault fault), fs, fun run s => ?_, fun _ => rfl⟩
      rw [act, uninstallCa, hgiven]
  | enableProxy host port =>
    cases hchosen : chosenEndpoint c.config host port with
    | ok e => simp [change?, request?, hchosen, Except.toOption, Controller.Request.change?] at h
    | error fault =>
      refine ⟨.failed (.endpoint fault), fs, fun run s => ?_, fun _ => rfl⟩
      rw [act, enableProxy, hchosen]
  | disableProxy => cases h

/-! ## Runs -/

/-- The platform and the change that a command line comes to. -/
def asked? (draw : Draw) (now : Moment) (args : List CommandLine.Argument) (fs : FileSystem) :
    Option (Platform × Change) :=
  match Invocation.ofArguments args with
  | .error _ => none
  | .ok invocation =>
    match invocation.request with
    | .init _ => none
    | .act action =>
      match prepare invocation.config invocation.platform fs with
      | (.error _, _) => none
      | (.ok c, ready) => (change? draw now c ready action).map (c.platform, ·)

variable {args : List CommandLine.Argument} {platform : Platform}

/-- What a command line went through that comes to a change. -/
theorem asked?_eq_some (h : asked? draw now args fs = some (platform, change)) :
    ∃ invocation action c ready,
      Invocation.ofArguments args = .ok invocation
      ∧ invocation.request = .act action
      ∧ prepare invocation.config invocation.platform fs = (.ok c, ready)
      ∧ c.platform = platform
      ∧ change? draw now c ready action = some change := by
  rw [asked?] at h
  split at h
  · nomatch h
  · next invocation hinvocation =>
    split at h
    · nomatch h
    · next action haction =>
      split at h
      · nomatch h
      · next c ready hprepare =>
        obtain ⟨made, hchange, heq⟩ := Option.map_eq_some_iff.mp h
        obtain ⟨hplatform, rfl⟩ := Prod.mk.inj heq
        exact ⟨invocation, action, c, ready, hinvocation, haction, hprepare, hplatform, hchange⟩

/-- A run that comes to a change makes it and reports on it. -/
theorem run_of_asked (h : asked? draw now args fs = some (platform, change)) :
    ∃ files, ∀ {σ : Type} (tools : Runner σ) (s : σ),
      run tools draw now args fs s
        = (.onChange (change.perform tools platform s).1 change, files,
          (change.perform tools platform s).2) := by
  obtain ⟨invocation, action, c, ready, hinvocation, haction, hprepare, rfl, hchange⟩ :=
    asked?_eq_some h
  obtain ⟨files, hact⟩ := act_of_change hchange
  refine ⟨files, fun tools s => ?_⟩
  simp only [run, hinvocation, carryOut, haction, hprepare, hact]

/-- The configuration, the log and the platform, where nothing fails. -/
theorem prepare_eq_ok {path : Path} {named : Option Platform} {ready : FileSystem}
    (h : prepare path named fs = (.ok c, ready)) :
    Config.load fs path = .ok c.config ∧ Logging.start fs c.config.logPath = (.ok (), ready)
      ∧ Config.resolvePlatform named c.config = .ok c.platform := by
  rw [prepare] at h
  split at h
  · nomatch h
  · next config hconfig =>
    split at h
    · nomatch h
    · nomatch h
    · next left hlog =>
      split at h
      · nomatch h
      · next platform hplatform =>
        obtain ⟨heq, rfl⟩ := Prod.mk.inj h
        obtain rfl := Except.ok.inj heq
        exact ⟨hconfig, hlog, hplatform⟩

/-- What comes before an action prints nothing where it fails. -/
theorem prepare_lines {path : Path} {named : Option Platform} {left : FileSystem} {report : Report}
    (h : prepare path named fs = (.error report, left)) : report.lines = [] := by
  rw [prepare] at h
  split at h
  · obtain ⟨heq, -⟩ := Prod.mk.inj h
    obtain rfl := Except.error.inj heq
    rfl
  · split at h
    · obtain ⟨heq, -⟩ := Prod.mk.inj h
      obtain rfl := Except.error.inj heq
      rfl
    · obtain ⟨heq, -⟩ := Prod.mk.inj h
      obtain rfl := Except.error.inj heq
      rfl
    · split at h
      · obtain ⟨heq, -⟩ := Prod.mk.inj h
        obtain rfl := Except.error.inj heq
        rfl
      · nomatch h

/-- A run that comes to no change does not call the runner, and one that was to be about the
    system prints nothing. -/
theorem run_of_not_asked (h : asked? draw now args fs = none) :
    ∃ report files, (∀ {σ : Type} (tools : Runner σ) (s : σ),
      run tools draw now args fs s = (report, files, s))
      ∧ ∀ invocation action, Invocation.ofArguments args = .ok invocation →
        invocation.request = .act action → ChangesSystem action → report.lines = [] := by
  rw [asked?] at h
  split at h
  · -- the arguments are refused
    next refusal hrefused =>
    refine ⟨⟨[], .refused refusal⟩, fs, fun tools s => ?_, fun _ _ hinvocation => ?_⟩
    · simp only [run, hrefused]
    · rw [hrefused] at hinvocation
      nomatch hinvocation
  · next invocation hinvocation =>
    split at h
    · -- a configuration is written, which is no action
      next force hinit =>
      refine ⟨(init invocation.config force fs).1, (init invocation.config force fs).2,
        fun tools s => ?_, fun other action hother haction => ?_⟩
      · simp only [run, hinvocation, carryOut, hinit]
      · rw [hinvocation] at hother
        obtain rfl := Except.ok.inj hother
        rw [hinit] at haction
        nomatch haction
    · next action haction =>
      split at h
      · -- the run ends before its action
        next report left hprepare =>
        refine ⟨report, left, fun tools s => ?_, fun _ _ _ _ _ => prepare_lines hprepare⟩
        simp only [run, hinvocation, carryOut, haction, hprepare]
      · -- the action itself comes to no change
        next c ready hprepare =>
        obtain ⟨report, files, hact, hlines⟩ := act_of_no_change (Option.map_eq_none_iff.mp h)
        refine ⟨report, files, fun tools s => ?_, fun other asked hother hasked hsystem => ?_⟩
        · simp only [run, hinvocation, carryOut, haction, hprepare, hact]
        · rw [hinvocation] at hother
          obtain rfl := Except.ok.inj hother
          rw [haction] at hasked
          obtain rfl := CommandLine.Request.act.inj hasked
          exact hlines hsystem

end ProxyTrust.Program
