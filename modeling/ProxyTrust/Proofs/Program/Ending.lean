/-
  What the ending of a run tells about the programs that it called.

  1. **Reports** — a report on a change ends with zero in either case, and its last line tells
     which one it was.

  2. **Calls** — the log of the calls is that of `Runner.logged`.  A call was `Ran` if it was
     answered with an exit status, and a call that was answered with an error ran no program to
     its end.  Every change has a first command, so that a change of which no call was `Ran` did
     not succeed.

  3. **Endings** — every failure of the program itself comes before the first call, and whatever
     the calls bring is folded into one line.  So the status and the last line together tell what
     happened to the system, over any runner (`ending_tells_what_happened`).  A run comes to a
     change or to none: one that comes to none calls no program, and one that comes to a change
     makes it as the change alone would.
-/
import ProxyTrust.Proofs.Program.Changes

namespace ProxyTrust.Program

open Authority (Draw)
open Change (AllSucceeded)
open CommandLine (Invocation)
open Runner (UpToFirstError)

variable {σ : Type}

/-! ## The line about a change -/

/-- A change that failed is told, and ends the run as a success does. -/
theorem onChange_status (ok : Bool) (change : Change) :
    (Report.onChange ok change).ending.status = 0 := rfl

/-- The last line is that of success exactly after a success. -/
theorem onChange_tells_success (ok : Bool) (change : Change) :
    (Report.onChange ok change).lines.getLast? = some (successLine change) ↔ ok = true := by
  cases ok with
  | true => exact ⟨fun _ => rfl, fun _ => rfl⟩
  | false =>
    constructor
    · intro h
      exact absurd (Option.some.inj h).symm (successLine_ne_failureLine change change)
    · intro h
      nomatch h

/-- The last line is that of failure exactly after a failure. -/
theorem onChange_tells_failure (ok : Bool) (change : Change) :
    (Report.onChange ok change).lines.getLast? = some (failureLine change) ↔ ¬ ok = true := by
  cases ok with
  | true =>
    constructor
    · intro h
      exact absurd (Option.some.inj h) (successLine_ne_failureLine change change)
    · intro h
      exact absurd rfl h
  | false => exact ⟨fun _ => Bool.false_ne_true, fun _ => rfl⟩

/-- A row that ran no program did not succeed, since no row is empty. -/
theorem not_allSucceeded_of_not_ran {platform : Platform} {change : Change}
    {commands : List Command} {calls : List Call}
    (hcommands : change.commands platform = .ok commands) (hran : ∀ call ∈ calls, ¬ call.Ran) :
      ¬ AllSucceeded commands calls := by
  rintro ⟨hrow, hzero⟩
  cases calls with
  | nil => exact Change.commands_ne_nil hcommands hrow.symm
  | cons call calls =>
    exact hran call List.mem_cons_self ⟨0, hzero call List.mem_cons_self⟩

/-! ## Main statement -/

/-- A run tells what happened, over any runner.  One that ends with a status other than zero
    called no program.  One that called a program was to make a change, ends with zero, and its
    last line is that of success exactly where all commands of the change were run and exited with
    zero, else that of failure.  One that was to change the system and in which no program ran
    never prints a line of success. -/
theorem ending_tells_what_happened (tools : Runner σ) (draw : Draw) (now : Moment)
    (args : List CommandLine.Argument) (fs : FileSystem) (s : σ) :
    ∃ report files t calls,
      run tools.logged draw now args fs (s, []) = (report, files, t, calls)
      ∧ run tools draw now args fs s = (report, files, t)
      ∧ (report.ending.status ≠ 0 → calls = [])
      ∧ (calls ≠ [] → report.ending.status = 0
          ∧ ∃ invocation action platform change commands,
            Invocation.ofArguments args = .ok invocation
            ∧ invocation.request = .act action
            ∧ asked? draw now args fs = some (platform, change)
            ∧ Concerns action change
            ∧ change.commands platform = .ok commands
            ∧ UpToFirstError commands calls
            ∧ (report.lines.getLast? = some (successLine change) ↔ AllSucceeded commands calls)
            ∧ (report.lines.getLast? = some (failureLine change) ↔ ¬ AllSucceeded commands calls))
      ∧ ((∀ call ∈ calls, ¬ call.Ran) → ∀ invocation action,
          Invocation.ofArguments args = .ok invocation → invocation.request = .act action →
          ChangesSystem action → ∀ change, successLine change ∉ report.lines) := by
  cases hasked : asked? draw now args fs with
  | none =>
    obtain ⟨report, files, hrun, hlines⟩ := run_of_not_asked hasked
    refine ⟨report, files, s, [], hrun tools.logged (s, []), hrun tools s, fun _ => rfl,
      fun hcalls => absurd rfl hcalls,
        fun _ invocation action hinvocation haction hsystem change => ?_⟩
    rw [hlines invocation action hinvocation haction hsystem]
    exact List.not_mem_nil
  | some asked =>
    obtain ⟨platform, change⟩ := asked
    obtain ⟨invocation, action, c, ready, hinvocation, haction, -, -, hchange⟩ :=
      asked?_eq_some hasked
    obtain ⟨files, hrun⟩ := run_of_asked hasked
    cases hbuilt : change.commands platform with
    | error fault =>
      -- the change itself cannot be put into commands, so it fails without a call
      refine ⟨.onChange false change, files, s, [], ?_, ?_, fun _ => rfl, fun hcalls =>
        absurd rfl hcalls, fun _ _ _ _ _ _ other hother => ?_⟩
      · rw [hrun, Change.perform_of_fault hbuilt]
      · rw [hrun, Change.perform_of_fault hbuilt]
      · nomatch successLine_mem_onChange hother
    | ok commands =>
      obtain ⟨calls, t, hcalls, hlogged, hplain⟩ := Change.perform_of_commands hbuilt tools s
      have hworked := Change.settle_verdict_iff hcalls
      refine ⟨.onChange (Runner.settle (Runner.verdict calls)) change, files, t, calls, ?_, ?_,
        fun hstatus => absurd (onChange_status _ change) hstatus, fun _ => ?_,
        fun hran _ _ _ _ _ other hother => ?_⟩
      · rw [hrun, hlogged]
      · rw [hrun, hplain]
      · refine ⟨onChange_status _ change, invocation, action, platform, change, commands,
          hinvocation, haction, rfl, concerns_of_change hchange, hbuilt, hcalls, ?_, ?_⟩
        · rw [onChange_tells_success, hworked]
        · rw [onChange_tells_failure, hworked]
      · have hall := hworked.mp (successLine_mem_onChange hother)
        exact not_allSucceeded_of_not_ran hbuilt hran hall

end ProxyTrust.Program
