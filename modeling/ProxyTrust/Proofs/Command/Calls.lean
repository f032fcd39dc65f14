/-
  The calls that a row of commands makes.

  1. **Calls** — `Runner.logged` is a runner that also writes down every command handed to it,
     with the answer.  It answers as the runner it is made of, so that its log is the log of that
     runner.

  2. **The row** — `UpToFirstError commands calls` says that the calls are those of the commands,
     in order and each once, up to the first that answers with an error.

  3. **The verdict** — `Contract` adds what the row comes to.  The crux is `runAll_logged`, one
     induction over the commands, with the verdict as a function of the calls alone: a status
     other than zero is remembered while the row goes on, and an error later on still wins over
     it.
-/
import ProxyTrust.Command.Runner

namespace ProxyTrust

/-! ## Calls -/

/-- A command handed to a runner and what it answered. -/
structure Call where
  command : Command
  answer : Except IoError Int

/-- The call was answered with a status, whatever it is. -/
def Call.Ran (call : Call) : Prop := ∃ status, call.answer = .ok status

namespace Runner

variable {σ : Type}

/-- The runner that also writes down its calls, oldest first. -/
def logged (run : Runner σ) : Runner (σ × List Call) := fun c s =>
  ((run c s.1).1, (run c s.1).2, s.2 ++ [⟨c, (run c s.1).1⟩])

/-! ## The row -/

/-- The calls are those of the commands in order, up to the first that answers with an error. -/
inductive UpToFirstError : List Command → List Call → Prop
  /-- Every command was handed over, and none was answered with an error. -/
  | all {calls : List Call} (hran : ∀ call ∈ calls, call.Ran) :
      UpToFirstError (calls.map Call.command) calls
  /-- The last call was answered with an error, and the commands after it were kept back. -/
  | stopped {calls : List Call} {c : Command} {e : IoError} (rest : List Command)
      (hran : ∀ call ∈ calls, call.Ran) :
      UpToFirstError (calls.map Call.command ++ c :: rest) (calls ++ [⟨c, .error e⟩])

/-- One more command in front, which was answered with a status. -/
theorem UpToFirstError.cons {commands : List Command} {calls : List Call}
    (h : UpToFirstError commands calls) (c : Command) (status : Int) :
    UpToFirstError (c :: commands) (⟨c, .ok status⟩ :: calls) := by
  have hfront {calls : List Call} (hran : ∀ call ∈ calls, call.Ran) :
      ∀ call ∈ (⟨c, .ok status⟩ :: calls : List Call), call.Ran := by
    intro call hcall
    rcases List.mem_cons.mp hcall with rfl | hcall
    · exact ⟨status, rfl⟩
    · exact hran call hcall
  cases h with
  | all hran => exact .all (hfront hran)
  | stopped rest hran => exact .stopped rest (hfront hran)

/-- Only commands of the row are handed over. -/
theorem UpToFirstError.mem {commands : List Command} {calls : List Call}
    (h : UpToFirstError commands calls) : ∀ call ∈ calls, call.command ∈ commands := by
  intro call hcall
  cases h with
  | all hran => exact List.mem_map_of_mem hcall
  | stopped rest hran =>
    rcases List.mem_append.mp hcall with hcall | hcall
    · exact List.mem_append_left _ (List.mem_map_of_mem hcall)
    · obtain rfl := List.mem_singleton.mp hcall
      exact List.mem_append_right _ List.mem_cons_self

/-- Only an empty row makes no call. -/
theorem UpToFirstError.eq_nil {commands : List Command} (h : UpToFirstError commands []) :
    commands = [] := by
  generalize hcalls : ([] : List Call) = calls at h
  cases h with
  | all _ => exact congrArg (List.map Call.command) hcalls.symm
  | stopped rest _ =>
    exact absurd hcalls.symm (List.append_ne_nil_of_right_ne_nil _ (List.cons_ne_nil _ _))

/-- Where no call was answered with an error, the whole row was run. -/
theorem UpToFirstError.map_command {commands : List Command} {calls : List Call}
    (h : UpToFirstError commands calls) (hran : ∀ call ∈ calls, call.Ran) :
    calls.map Call.command = commands := by
  cases h with
  | all _ => rfl
  | @stopped before c e rest _ =>
    obtain ⟨status, hstatus⟩ := hran ⟨c, .error e⟩ (by simp)
    nomatch hstatus

/-! ## The verdict -/

/-- What calls come to: the first error, else whether every status was zero. -/
def verdict : List Call → Except Fault Bool
  | [] => .ok true
  | ⟨c, .error e⟩ :: _ => .error (.ofRun c.program e)
  | ⟨_, .ok status⟩ :: rest =>
    match verdict rest with
    | .ok later => .ok (status == 0 && later)
    | .error fault => .error fault

/-- Calls that were all answered with a status come to whether every status was zero. -/
theorem verdict_of_ran {calls : List Call} (hran : ∀ call ∈ calls, call.Ran) :
    ∃ ok, verdict calls = .ok ok ∧ (ok = true ↔ ∀ call ∈ calls, call.answer = .ok 0) := by
  induction calls with
  | nil => exact ⟨true, rfl, by simp⟩
  | cons call calls ih =>
    obtain ⟨later, hlater, hiff⟩ :=
      ih fun other hother => hran other (List.mem_cons_of_mem call hother)
    obtain ⟨status, hstatus⟩ := hran call (List.mem_cons_self ..)
    obtain ⟨c, answer⟩ := call
    obtain rfl : answer = .ok status := hstatus
    refine ⟨status == 0 && later, by rw [verdict, hlater], ?_⟩
    rw [Bool.and_eq_true, hiff, List.forall_mem_cons]
    simp

/-- A call that was answered with an error decides, whatever the statuses before it were. -/
theorem verdict_stopped {calls : List Call} (hran : ∀ call ∈ calls, call.Ran) (c : Command)
    (e : IoError) : verdict (calls ++ [⟨c, .error e⟩]) = .error (.ofRun c.program e) := by
  induction calls with
  | nil => rfl
  | cons call calls ih =>
    have hlater := ih fun other hother => hran other (List.mem_cons_of_mem call hother)
    obtain ⟨status, hstatus⟩ := hran call (List.mem_cons_self ..)
    obtain ⟨d, answer⟩ := call
    obtain rfl : answer = .ok status := hstatus
    rw [List.cons_append, verdict, hlater]

/-- What a row of commands comes to, told by its calls. -/
structure Contract (commands : List Command) (calls : List Call) (outcome : Except Fault Bool) :
    Prop where
  upToFirstError : UpToFirstError commands calls
  error_iff : ∀ fault, outcome = .error fault ↔ ∃ c e, ⟨c, .error e⟩ ∈ calls ∧
    fault = if e.kind = .interrupted then .cancelled c.program else .externalTool c.program e
  true_iff : outcome = .ok true ↔ ∀ call ∈ calls, call.answer = .ok 0

/-- The verdict is what the calls of a row come to. -/
theorem UpToFirstError.contract {commands : List Command} {calls : List Call}
    (h : UpToFirstError commands calls) : Contract commands calls (verdict calls) := by
  refine ⟨h, ?_, ?_⟩
  · intro fault
    cases h with
    | all hran =>
      obtain ⟨ok, hok, -⟩ := verdict_of_ran hran
      rw [hok]
      constructor
      · intro heq; nomatch heq
      · rintro ⟨c, e, hmem, -⟩
        obtain ⟨status, hstatus⟩ := hran _ hmem
        nomatch hstatus
    | @stopped before c e rest hran =>
      rw [verdict_stopped hran]
      constructor
      · intro heq
        exact ⟨c, e, by simp, (Except.error.inj heq).symm⟩
      · rintro ⟨d, f, hmem, rfl⟩
        -- the only error among the calls is the last one
        rcases List.mem_append.mp hmem with hmem | hmem
        · obtain ⟨status, hstatus⟩ := hran _ hmem
          nomatch hstatus
        · cases List.mem_singleton.mp hmem
          rfl
  · cases h with
    | all hran =>
      obtain ⟨ok, hok, hiff⟩ := verdict_of_ran hran
      rw [hok, ← hiff]
      constructor
      · exact fun heq => Except.ok.inj heq
      · exact fun heq => congrArg _ heq
    | @stopped before c e rest hran =>
      rw [verdict_stopped hran]
      constructor
      · intro heq; nomatch heq
      · intro hall
        nomatch hall ⟨c, .error e⟩ (by simp)

/-! ## Running a row -/

/-- A row of commands with its log: the calls are those up to the first error, the outcome is their
    verdict, and without the log everything is the same. -/
theorem runAll_logged (run : Runner σ) (commands : List Command) (s : σ) (log : List Call) :
    ∃ calls t, UpToFirstError commands calls
      ∧ runAll run.logged commands (s, log) = (verdict calls, t, log ++ calls)
      ∧ runAll run commands s = (verdict calls, t) := by
  induction commands generalizing s log with
  | nil => exact ⟨[], s, @UpToFirstError.all [] (by simp), by simp [runAll, verdict], rfl⟩
  | cons c rest ih =>
    cases hrun : run c s with
    | mk answer t =>
      cases answer with
      | error e =>
        -- the row ends with this call, and what was logged before it stays in front
        refine ⟨[⟨c, .error e⟩], t, @UpToFirstError.stopped [] c e rest (by simp), ?_, ?_⟩
        · simp [runAll, runSucceeded, logged, hrun, verdict]
        · simp [runAll, runSucceeded, hrun, verdict]
      | ok status =>
        -- the rest of the row decides, and a status other than zero is remembered along with it
        obtain ⟨calls, u, hcalls, hlogged, hplain⟩ := ih t (log ++ [⟨c, .ok status⟩])
        refine ⟨⟨c, .ok status⟩ :: calls, u, hcalls.cons c status, ?_, ?_⟩
        · have hstep : runSucceeded run.logged c (s, log)
              = (.ok (status == 0), t, log ++ [⟨c, .ok status⟩]) := by
            simp [runSucceeded, logged, hrun]
          rw [runAll, hstep]
          simp only [hlogged, verdict]
          cases verdict calls <;> simp
        · have hstep : runSucceeded run c s = (.ok (status == 0), t) := by
            simp [runSucceeded, hrun]
          rw [runAll, hstep]
          simp only [hplain, verdict]
          cases verdict calls <;> rfl

/-- A row of one command is that command. -/
theorem runAll_singleton (run : Runner σ) (c : Command) (s : σ) :
    runAll run [c] s = runSucceeded run c s := by
  rw [runAll]
  cases runSucceeded run c s with
  | mk outcome t =>
    cases outcome with
    | error fault => rfl
    | ok ok => simp [runAll]

end Runner

end ProxyTrust
