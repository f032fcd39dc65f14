/-
  Rows of commands under a token that may be cancelled at any point of a run.

  1. **Tokens** — a token says for every call of a run, by its number, how long after the start of
     the call it fires.  Nothing else is known about it: it may fire before the first call, during
     one, or between two.  The end of a program and the token are watched at once, and where both
     are there, either may be seen first.  So a token also says for every call which one it is.

  2. **Runners under a token** — both runners hand the command over before they look at the token.
     What they answer when it has fired already is the law `run_fired` of `TokenRunner`: the wait is
     given up at once, unless the program has ended by the time the wait begins (`prompt`) and this
     is seen first.  A script is never asked for its end in this way.  Over programs it depends on
     the system (`Host.Launch`), of which nothing is assumed.

  3. **Answers** — every call of a row was answered in the state that the calls before it left
     behind (`Answered.found`), which ties each answer to the program that it is about.

  4. **Rows** — the crux is that an error ends a row.  Hence the first call that is made after the
     token has fired, and whose program has not ended when the wait for it begins, is the last one
     of its row (`EndsWithin`), and every call between the two was answered with the status of a
     program that had ended.
-/
import ProxyTrust.Command.Script
import ProxyTrust.Host.Runner
import ProxyTrust.Proofs.Command.Calls

namespace ProxyTrust

/-! ## Tokens -/

/-- For every call by its number: how long after its start the token fires, if it fires during the
    call, and whether the end of the program is seen before the token where both are there. -/
abbrev Token := Nat → Option Nat × Bool

/-- The token has fired when this call is due, and so for all calls after it. -/
def Token.Fired (token : Token) (due : Nat) : Prop := ∀ n, due ≤ n → (token n).1 = some 0

/-! ## Runners under a token -/

/-- A runner for single calls, each with the time after which the token fires, if it does, and with
    which of an end and the token is seen first. -/
structure TokenRunner (σ : Type) where
  run : Option Nat → Bool → Runner σ
  /-- Why the program of a command cannot be started, if it cannot. -/
  refusal : Command → σ → Option IoError
  /-- The program of a command has ended by the time the wait for it begins. -/
  prompt : Command → σ → Bool
  /-- A program that cannot be started leaves everything as it was, whatever the token does. -/
  run_refused : ∀ after endFirst c s e, refusal c s = some e →
    run after endFirst c s = (.error e, s)
  /-- A program that is so quick was started, and has a status. -/
  run_prompt : ∀ endFirst c s, prompt c s = true →
    refusal c s = none ∧ ∃ status, (run none endFirst c s).1 = .ok status
  /-- Where the token has fired already, the program is started, but its end is not waited for.  If
      the end is there all the same, it may be seen first, and is told as if there were no token. -/
  run_fired : ∀ endFirst c s, refusal c s = none → (run (some 0) endFirst c s).1
    = if prompt c s = true ∧ endFirst = true then (run none endFirst c s).1
      else .error (Runner.waitCancelled c)

/-- The runner of scripts, which can start everything, and looks at the token alone. -/
def Script.tokenRunner : TokenRunner Script where
  run after _ := Script.runner (after == some 0)
  refusal _ _ := none
  prompt _ _ := false
  run_refused _ _ _ _ _ h := absurd h.symm (Option.some_ne_none _)
  run_prompt _ _ _ h := absurd h Bool.false_ne_true
  run_fired _ _ _ _ := rfl

namespace Host

variable {launch : Launch}

/-- Why a command cannot be started. -/
def refusal (launch : Launch) (c : Command) (host : Host) : Option IoError :=
  match launch c host.files with
  | .error e => some e
  | .ok _ => none

/-- A task that comes to its end without any time. -/
def endsAtOnce (host : Host) : Task Shell.Ended → Bool
  | .done _ _ => true
  | .wait time files next =>
    let later := pass { host with files } time
    time == 0 && endsAtOnce later (next later.files)

/-- The program of a command comes to its end without any time. -/
def prompt (launch : Launch) (c : Command) (host : Host) : Bool :=
  match launch c host.files with
  | .error _ => false
  | .ok program => endsAtOnce host (program host.files)

/-- A program that cannot be started is told by its error alone. -/
theorem runner_of_refusal {after : Option Nat} {endFirst : Bool} {c : Command} {host : Host}
    {e : IoError} (h : refusal launch c host = some e) :
    runnerOf launch endFirst after c host = (.error e, host) := by
  rw [refusal] at h
  rw [runnerOf]
  cases hlaunch : launch c host.files with
  | error fault =>
    rw [hlaunch] at h
    obtain rfl := Option.some.inj h
    rfl
  | ok program => rw [hlaunch] at h; nomatch h

/-- Without a token a program is waited for to its end. -/
theorem await_none (endFirst : Bool) (host : Host) (task : Task Shell.Ended) :
    ∃ ended, (await endFirst none host task).1 = some ended := by
  induction task generalizing host with
  | done ended files => exact ⟨ended, by simp [await]⟩
  | wait time files next ih =>
    rw [await]
    exact ih _ _

/-- Once the token has fired, no end is waited for.  It is seen only where it is there already, and
    then it is the end that the program would have had. -/
theorem await_zero (endFirst : Bool) (host : Host) (task : Task Shell.Ended) :
    (await endFirst (some 0) host task).1
      = if endsAtOnce host task = true ∧ endFirst = true then (await endFirst none host task).1
        else none := by
  induction task generalizing host with
  | done ended files => cases endFirst <;> simp [await, endsAtOnce]
  | wait time files next ih =>
    rw [await, await, endsAtOnce]
    by_cases hnow : time = 0 ∧ endFirst = true
    · -- the program wakes up at once, and the rest of it is waited for in the same way
      obtain ⟨rfl, rfl⟩ := hnow
      simp [ih]
    · have hlate : ¬ (time < 0 ∨ time = 0 ∧ endFirst = true) := by
        rintro (hlt | heq)
        · exact Nat.not_lt_zero time hlt
        · exact hnow heq
      simp only [if_neg hlate]
      rw [if_neg]
      intro h
      simp only [Bool.and_eq_true, beq_iff_eq] at h
      exact hnow ⟨h.1.1, h.2⟩

/-- What is told of a wait: the status of the end that was seen, or that the wait was given up. -/
def told (c : Command) : Option Shell.Ended → Except IoError Int
  | some ended => .ok (statusOfEnd ended)
  | none => .error (Runner.waitCancelled c)

/-- Where a command can be started, its runner tells how the wait for it came out. -/
theorem runner_of_launch {c : Command} {host : Host} {program : Timed Shell.Ended}
    (hlaunch : launch c host.files = .ok program) (endFirst : Bool) (after : Option Nat) :
    (runnerOf launch endFirst after c host).1
      = told c (await endFirst after host (program host.files)).1 := by
  rw [runnerOf, hlaunch]
  simp only
  cases await endFirst after host (program host.files) with
  | mk ended left => cases ended <;> rfl

/-- A program that ends at once was started, and a wait without a token ends with its status. -/
theorem runner_prompt {endFirst : Bool} {c : Command} {host : Host}
    (h : prompt launch c host = true) :
    refusal launch c host = none
      ∧ ∃ status, (runnerOf launch endFirst none c host).1 = .ok status := by
  rw [prompt] at h
  cases hlaunch : launch c host.files with
  | error fault => rw [hlaunch] at h; nomatch h
  | ok program =>
    obtain ⟨ended, hended⟩ := await_none endFirst host (program host.files)
    refine ⟨by rw [refusal, hlaunch], statusOfEnd ended, ?_⟩
    rw [runner_of_launch hlaunch, hended, told]

/-- Where the token has fired, a wait ends with the status of a program that has ended, if this is
    seen first, and is given up otherwise. -/
theorem runner_fired {endFirst : Bool} {c : Command} {host : Host}
    (h : refusal launch c host = none) :
    (runnerOf launch endFirst (some 0) c host).1
      = if prompt launch c host = true ∧ endFirst = true
        then (runnerOf launch endFirst none c host).1 else .error (Runner.waitCancelled c) := by
  rw [refusal] at h
  cases hlaunch : launch c host.files with
  | error fault => rw [hlaunch] at h; nomatch h
  | ok program =>
    have hprompt : prompt launch c host = endsAtOnce host (program host.files) := by
      rw [prompt, hlaunch]
    rw [runner_of_launch hlaunch, runner_of_launch hlaunch, await_zero, hprompt]
    split <;> rfl

/-- The runner of the programs of a system. -/
def tokenRunner (launch : Launch) : TokenRunner Host where
  run after endFirst := runnerOf launch endFirst after
  refusal := refusal launch
  prompt := prompt launch
  run_refused _ _ _ _ _ h := runner_of_refusal h
  run_prompt _ _ _ h := runner_prompt h
  run_fired _ _ _ h := runner_fired h

end Host

namespace TokenRunner

variable {σ : Type}

/-- A runner under a token, with the number of the next call. -/
def under (r : TokenRunner σ) (token : Token) : Runner (σ × Nat) := fun c s =>
  let answered := r.run (token s.2).1 (token s.2).2 c s.1
  (answered.1, answered.2, s.2 + 1)

/-- What becomes of a call that is made when the token has fired.  Its program cannot be started, or
    the wait for it is given up at once, or it has ended already and its status is told. -/
inductive Late (r : TokenRunner σ) (s : σ) : Call → Prop
  | refused {c : Command} {e : IoError} (h : r.refusal c s = some e) : Late r s ⟨c, .error e⟩
  | givenUp {c : Command} (h : r.refusal c s = none) :
      Late r s ⟨c, .error (Runner.waitCancelled c)⟩
  | ended {c : Command} {status : Int} (h : r.prompt c s = true) (endFirst : Bool)
      (hstatus : (r.run none endFirst c s).1 = .ok status) : Late r s ⟨c, .ok status⟩

/-- Every call under a token that has fired is a late one. -/
theorem run_late (r : TokenRunner σ) (endFirst : Bool) (c : Command) (s : σ) :
    r.Late s ⟨c, (r.run (some 0) endFirst c s).1⟩ := by
  cases hrefusal : r.refusal c s with
  | some e =>
    rw [r.run_refused _ _ c s e hrefusal]
    exact .refused hrefusal
  | none =>
    rw [r.run_fired endFirst c s hrefusal]
    split
    case isTrue h =>
      obtain ⟨-, status, hstatus⟩ := r.run_prompt endFirst c s h.1
      rw [hstatus]
      exact .ended h.1 endFirst hstatus
    case isFalse => exact .givenUp hrefusal

/-- The fault that a row ends with where its last call was made after the token had fired, and its
    program had not ended. -/
def lateFault (r : TokenRunner σ) (c : Command) (s : σ) : Fault :=
  match r.refusal c s with
  | none => .cancelled c.program
  | some e => .ofRun c.program e

/-- A late call is answered with an error, unless its program has ended already. -/
theorem Late.error {r : TokenRunner σ} {s : σ} {call : Call} (h : r.Late s call)
    (hprompt : r.prompt call.command s = false) :
    ∃ e, call.answer = .error e
      ∧ Fault.ofRun call.command.program e = r.lateFault call.command s := by
  cases h with
  | refused h => exact ⟨_, rfl, by rw [lateFault, h]⟩
  | givenUp h => exact ⟨_, rfl, by rw [lateFault, h]; rfl⟩
  | ended h => rw [h] at hprompt; nomatch hprompt

end TokenRunner

namespace Runner

variable {σ : Type}

/-! ## Answers -/

/-- The calls are answered one after another by the runner, between two of its states. -/
inductive Answered (run : Runner σ) : σ → List Call → σ → Prop
  | nil {s} : Answered run s [] s
  | cons {s t u c answer calls} (hrun : run c s = (answer, t)) (hrest : Answered run t calls u) :
      Answered run s (⟨c, answer⟩ :: calls) u

/-- The calls that a row adds to the log are answered by the runner. -/
theorem answered_of_runAll (run : Runner σ) (commands : List Command) (s : σ) (log : List Call) :
    ∃ calls, (runAll run.logged commands (s, log)).2.2 = log ++ calls
      ∧ Answered run s calls (runAll run.logged commands (s, log)).2.1 := by
  induction commands generalizing s log with
  | nil => exact ⟨[], (List.append_nil log).symm, .nil⟩
  | cons c rest ih =>
    cases hrun : run c s with
    | mk answer t =>
      cases answer with
      | error e =>
        -- nothing is called after an error
        have hrow : runAll run.logged (c :: rest) (s, log)
            = (.error (.ofRun c.program e), t, log ++ [⟨c, .error e⟩]) := by
          simp [runAll, runSucceeded, logged, hrun]
        rw [hrow]
        exact ⟨[⟨c, .error e⟩], rfl, .cons hrun .nil⟩
      | ok status =>
        obtain ⟨calls, hlog, hanswered⟩ := ih t (log ++ [⟨c, .ok status⟩])
        have hstep : runSucceeded run.logged c (s, log)
            = (.ok (status == 0), t, log ++ [⟨c, .ok status⟩]) := by
          simp [runSucceeded, logged, hrun]
        -- the verdict changes with the status, but the state and the log are those of the rest
        have hrow : (runAll run.logged (c :: rest) (s, log)).2
            = (runAll run.logged rest (t, log ++ [⟨c, .ok status⟩])).2 := by
          rw [runAll, hstep]
          simp only
          cases runAll run.logged rest (t, log ++ [⟨c, .ok status⟩]) with
          | mk outcome after => cases outcome <;> rfl
        rw [hrow]
        refine ⟨⟨c, .ok status⟩ :: calls, ?_, .cons hrun hanswered⟩
        rw [hlog, List.append_assoc]
        rfl

/-- The state after some calls, whatever they were answered. -/
def found (run : Runner σ) (s : σ) (calls : List Call) : σ :=
  calls.foldl (fun s call => (run call.command s).2) s

/-- A call is answered in the state that the calls before it left. -/
theorem Answered.found {run : Runner σ} {s t : σ} {calls : List Call} (h : Answered run s calls t)
    {i : Nat} {call : Call} (hcall : calls[i]? = some call) :
    call.answer = (run call.command (run.found s (calls.take i))).1 := by
  induction h generalizing i with
  | nil => nomatch hcall
  | @cons s t u c answer calls hrun hrest ih =>
    cases i with
    | zero =>
      obtain rfl := Option.some.inj hcall
      exact (congrArg Prod.fst hrun).symm
    | succ i =>
      have hnext : (run c s).2 = t := congrArg Prod.snd hrun
      rw [List.take_succ_cons, Runner.found, List.foldl_cons, hnext]
      exact ih hcall

end Runner

namespace TokenRunner

variable {σ : Type}

/-- The state in which a runner under a token finds its programs after some calls. -/
def found (r : TokenRunner σ) (token : Token) (s : σ) (calls : List Call) : σ :=
  ((r.under token).found (s, 0) calls).1

/-- The number of a call is that of the calls before it. -/
theorem number_found (r : TokenRunner σ) (token : Token) (s : σ × Nat) (calls : List Call) :
    ((r.under token).found s calls).2 = s.2 + calls.length := by
  induction calls generalizing s with
  | nil => rfl
  | cons call calls ih =>
    have hnext : ((r.under token) call.command s).2.2 = s.2 + 1 := rfl
    rw [Runner.found, List.foldl_cons, ← Runner.found, ih, hnext, List.length_cons]
    omega

/-- A call that is made when the token has fired is a late one, over what the calls before it
    left. -/
theorem late_of_answered {r : TokenRunner σ} {token : Token} {due : Nat} {s : σ} {t : σ × Nat}
    {calls : List Call} (hfired : token.Fired due)
    (h : Runner.Answered (r.under token) (s, 0) calls t) {i : Nat} {call : Call} (hdue : due ≤ i)
    (hcall : calls[i]? = some call) : r.Late (r.found token s (calls.take i)) call := by
  have hanswer := h.found hcall
  obtain ⟨hlt, -⟩ := List.getElem?_eq_some_iff.mp hcall
  have hnumber : ((r.under token).found (s, 0) (calls.take i)).2 = i := by
    rw [number_found, List.length_take, Nat.zero_add]
    omega
  have hlate := r.run_late (token i).2 call.command (r.found token s (calls.take i))
  have hrun : (r.run (some 0) (token i).2 call.command (r.found token s (calls.take i))).1
      = call.answer := by
    rw [hanswer, under, hnumber, hfired i hdue]
    rfl
  rwa [hrun] at hlate

end TokenRunner

namespace Runner

variable {σ : Type}

/-! ## Rows -/

/-- What a row comes to whose token has fired when call number `due` is due.  Every call from there
    on is a late one, over what the calls before it left.  One whose program has not ended when the
    wait for it begins is the last, and the row ends with it. -/
structure EndsWithin (r : TokenRunner σ) (token : Token) (s : σ) (due : Nat)
    (commands : List Command) (calls : List Call) (outcome : Except Fault Bool) : Prop where
  contract : Contract commands calls outcome
  late : ∀ i call, due ≤ i → calls[i]? = some call → r.Late (r.found token s (calls.take i)) call
  last : ∀ i call, due ≤ i → calls[i]? = some call →
    r.prompt call.command (r.found token s (calls.take i)) = false →
    calls.length = i + 1
      ∧ outcome = .error (r.lateFault call.command (r.found token s (calls.take i)))
  /-- Where no program is so quick, at most one call is made after that. -/
  length_le : (∀ c s, r.prompt c s = false) → calls.length ≤ due + 1

/-- A call that is answered with an error is the last one of its row. -/
theorem UpToFirstError.last {commands : List Command} {calls : List Call}
    (h : UpToFirstError commands calls) {i : Nat} {c : Command} {e : IoError}
    (hcall : calls[i]? = some ⟨c, .error e⟩) :
    calls.length = i + 1 ∧ verdict calls = .error (.ofRun c.program e) := by
  have hmem := List.mem_of_getElem? hcall
  cases h with
  | all hran =>
    obtain ⟨status, hstatus⟩ := hran _ hmem
    nomatch hstatus
  | @stopped before d f rest hran =>
    -- only the last call of the row was answered with an error
    have hlast : i = before.length := by
      have hi := (List.getElem?_eq_some_iff.mp hcall).1
      rw [List.length_append, List.length_singleton] at hi
      rcases Nat.lt_or_ge i before.length with hlt | hge
      · rw [List.getElem?_append_left hlt] at hcall
        obtain ⟨status, hstatus⟩ := hran _ (List.mem_of_getElem? hcall)
        nomatch hstatus
      · omega
    subst hlast
    rw [List.getElem?_concat_length] at hcall
    obtain ⟨rfl, hanswer⟩ := Call.mk.inj (Option.some.inj hcall)
    obtain rfl := Except.error.inj hanswer
    exact ⟨by rw [List.length_append, List.length_singleton], verdict_stopped hran _ _⟩

/-- A row under a token that has fired when a call is due. -/
theorem runAll_under (r : TokenRunner σ) {token : Token} {due : Nat} (hfired : token.Fired due)
    (commands : List Command) (s : σ) :
    ∃ calls t, runAll (r.under token).logged commands ((s, 0), []) = (verdict calls, t, calls)
      ∧ EndsWithin r token s due commands calls (verdict calls) := by
  obtain ⟨calls, t, hcalls, hlogged, -⟩ := runAll_logged (r.under token) commands (s, 0) []
  obtain ⟨logged, hlog, hanswered⟩ := answered_of_runAll (r.under token) commands (s, 0) []
  rw [hlogged, List.nil_append, List.nil_append] at hlog
  subst hlog
  -- a late call whose program goes on is answered with an error, and an error ends the row
  have hlast {i : Nat} {call : Call} (hdue : due ≤ i) (hcall : calls[i]? = some call)
      (hprompt : r.prompt call.command (r.found token s (calls.take i)) = false) :
      calls.length = i + 1 ∧ verdict calls
        = .error (r.lateFault call.command (r.found token s (calls.take i))) := by
    have hlate := TokenRunner.late_of_answered hfired hanswered hdue hcall
    obtain ⟨e, hanswer, hfault⟩ := hlate.error hprompt
    obtain ⟨c, answer⟩ := call
    obtain rfl : answer = .error e := hanswer
    rw [← hfault]
    exact hcalls.last hcall
  refine ⟨calls, t, hlogged, hcalls.contract, ?_, fun i call => hlast, ?_⟩
  · intro i call hdue hcall
    exact TokenRunner.late_of_answered hfired hanswered hdue hcall
  · -- where no program is so quick, the first call that is due is the last
    intro hslow
    rcases Nat.lt_or_ge due calls.length with hmade | hnone
    · exact Nat.le_of_eq (hlast (Nat.le_refl due) (List.getElem?_eq_getElem hmade) (hslow _ _)).1
    · omega

end Runner

end ProxyTrust
