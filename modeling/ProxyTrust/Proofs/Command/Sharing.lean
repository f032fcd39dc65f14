/-
  Scripted runners that share their script with their clones.

  1. **Runs in two parts** — a run holds its script only once.  It writes its command down and
     takes the oldest outcome (`Script.take`); it looks at its token, and answers, when it has let
     the script go (`Script.reply`).  Other runs may come in between, so that the parts are acts
     of their own here.

  2. **Pools** — a `ScriptPool` has scripts, runners that hold them, and runs that have not
     answered yet.  A clone holds the script of the runner it is made of.  `ScriptPool.step` is
     one act, and `ScriptPool.run` any row of acts through any of the runners, with what there was
     to see.

  3. **Accounts** — what was given to a script, taken from it and run on it, read off the events
     alone.  `Balanced` ties them to the script as it is now: what was given is what was taken and
     what is still queued, in this order, and the commands are those of the runs begun.

  4. **One act** — `step_cases` says what an act can do, and is the only place that looks into
     `ScriptPool.step`.  Each of these moves keeps the accounts (`Kept.moves`), and its event fits
     the events before it (`Event.Fits`).  A move is about one script, and all others are spared
     (`balanced_of_change`).

  5. **Rows of acts** — `loses_and_reorders_nothing`, by induction over the acts.  The subtle
     point is a run that finds no outcome: it takes none, so that what is pushed after it is not
     shifted.
-/
import ProxyTrust.Command.Script

namespace ProxyTrust

/-! ## Runs in two parts -/

namespace Script

/-- The first part of a run: the outcome it takes along, and the script it lets go. -/
def take (c : Command) (s : Script) : Outcome × Script :=
  ((next s.queue).1, ⟨(next s.queue).2, s.log ++ [c]⟩)

/-- The second part of a run: the answer, which depends on the token and on the outcome. -/
def reply (cancelled : Bool) (c : Command) (outcome : Outcome) : Except IoError Int :=
  if cancelled then .error (Runner.waitCancelled c) else answer c outcome

theorem runner_eq (cancelled : Bool) (c : Command) (s : Script) :
    runner cancelled c s = (reply cancelled c (s.take c).1, (s.take c).2) :=
  rfl

theorem next_fst (queue : List Outcome) : (next queue).1 = queue.head?.getD (.exit 0) := by
  cases queue <;> rfl

/-- What is taken and what is left are what there was. -/
theorem head_append_next (queue : List Outcome) : queue.head?.toList ++ (next queue).2 = queue := by
  cases queue <;> rfl

end Script

/-- What is answered for an outcome that was given: its status, or an error of its kind. -/
def Outcome.Answered : Outcome → Except IoError Int → Prop
  | .exit status, answer => answer = .ok status
  | .spawnError kind, answer => ∃ e, answer = .error e ∧ e.kind = kind

/-- A script answers a command as its outcome says. -/
theorem Script.answered (c : Command) (outcome : Outcome) :
    outcome.Answered (Script.answer c outcome) := by
  cases outcome with
  | exit status => rfl
  | spawnError kind => exact ⟨_, rfl, rfl⟩

/-! ## Pools -/

/-- Scripts, runners that hold them, and runs under way. -/
structure ScriptPool where
  scripts : List Script
  /-- For every runner the number of its script. -/
  holders : List Nat
  /-- For every run its command and the outcome it took along, until it answers. -/
  runs : List (Option (Command × Outcome))
  deriving Repr, DecidableEq

namespace ScriptPool

/-- What can be done with a pool. -/
inductive Act where
  /-- A runner with a script of its own is made. -/
  | make (outcomes : List Outcome)
  | clone (runner : Nat)
  | push (runner : Nat) (outcome : Outcome)
  /-- The first part of a run. -/
  | start (runner : Nat) (c : Command)
  /-- The second part of a run, which looks at its token. -/
  | finish (run : Nat) (cancelled : Bool)
  | calls (runner : Nat)

/-- What there is to see of an act. -/
inductive Event where
  /-- Outcomes were handed in, at the start or later on. -/
  | given (script : Nat) (outcomes : List Outcome)
  /-- A run began, and took an outcome if there was one. -/
  | began (script : Nat) (c : Command) (taken : Option Outcome)
  | answered (run : Nat) (cancelled : Bool) (answer : Except IoError Int)
  | told (script : Nat) (calls : List Command)

/-- No runners at all. -/
def empty : ScriptPool := ⟨[], [], []⟩

/-- The script that a runner holds, with its number. -/
def held (pool : ScriptPool) (runner : Nat) : Option (Nat × Script) :=
  pool.holders[runner]?.bind fun n => pool.scripts[n]?.map fun s => (n, s)

/-- One act.  Without the runner or the run that it needs, it does nothing. -/
def step (pool : ScriptPool) : Act → ScriptPool × Option Event
  | .make outcomes =>
    let n := pool.scripts.length
    ({ pool with scripts := pool.scripts ++ [⟨outcomes, []⟩], holders := pool.holders ++ [n] },
      some (.given n outcomes))
  | .clone runner =>
    match pool.holders[runner]? with
    | none => (pool, none)
    | some n => ({ pool with holders := pool.holders ++ [n] }, none)
  | .push runner outcome =>
    match pool.held runner with
    | none => (pool, none)
    | some (n, s) =>
      ({ pool with scripts := pool.scripts.set n (s.push outcome) }, some (.given n [outcome]))
  | .start runner c =>
    match pool.held runner with
    | none => (pool, none)
    | some (n, s) =>
      let (outcome, left) := s.take c
      ({ pool with scripts := pool.scripts.set n left, runs := pool.runs ++ [some (c, outcome)] },
        some (.began n c s.queue.head?))
  | .finish run cancelled =>
    match pool.runs[run]? with
    | some (some (c, outcome)) =>
      ({ pool with runs := pool.runs.set run none },
        some (.answered run cancelled (Script.reply cancelled c outcome)))
    | _ => (pool, none)
  | .calls runner =>
    match pool.held runner with
    | none => (pool, none)
    | some (n, s) => (pool, some (.told n s.log))

/-- A row of acts: the pool after it, and all there was to see. -/
def run (pool : ScriptPool) : List Act → ScriptPool × List Event
  | [] => (pool, [])
  | act :: rest =>
    let (between, event) := pool.step act
    let (after, later) := between.run rest
    (after, event.toList ++ later)

/-! ## Accounts -/

namespace Event

/-- What the event gives to a script. -/
def givenTo (n : Nat) : Event → List Outcome
  | given m outcomes => if m = n then outcomes else []
  | _ => []

/-- What the event takes from a script. -/
def takenFrom (n : Nat) : Event → List Outcome
  | began m _ taken => if m = n then taken.toList else []
  | _ => []

/-- What the event runs on a script. -/
def commandsOn (n : Nat) : Event → List Command
  | began m c _ => if m = n then [c] else []
  | _ => []

/-- The run that the event begins, with what it takes. -/
def begun : Event → Option (Command × Option Outcome)
  | began _ c taken => some (c, taken)
  | _ => none

end Event

/-- The outcomes given to a script, those of its start first. -/
def given (n : Nat) (events : List Event) : List Outcome := events.flatMap (·.givenTo n)

/-- The outcomes that runs took from a script. -/
def taken (n : Nat) (events : List Event) : List Outcome := events.flatMap (·.takenFrom n)

/-- The commands run on a script. -/
def commands (n : Nat) (events : List Event) : List Command := events.flatMap (·.commandsOn n)

/-- The runs of all scripts, by their numbers. -/
def begun (events : List Event) : List (Command × Option Outcome) := events.filterMap (·.begun)

/-- The run has answered. -/
def HasAnswered (events : List Event) (k : Nat) : Prop :=
  ∃ cancelled answer, .answered k cancelled answer ∈ events

/-- The event is what it must be after the events before it.  A runner tells the commands run on
    its script.  A run takes the oldest outcome given and not yet taken, if there is one.  It
    answers the outcome that it took, or success, unless its token is cancelled. -/
def Event.Fits (before : List Event) : Event → Prop
  | .given _ _ => True
  | .told n calls => calls = commands n before
  | .began n _ first =>
    ∃ queued, ScriptPool.given n before = taken n before ++ queued ∧ first = queued.head?
  | .answered run cancelled answer => ∃ c first, (ScriptPool.begun before)[run]? = some (c, first) ∧
    if cancelled then ∃ e, answer = .error e ∧ e.kind = .interrupted
    else (first.getD (.exit 0)).Answered answer

/-- A script is what the events make of it. -/
structure Balanced (n : Nat) (events : List Event) (s : Script) : Prop where
  queue : given n events = taken n events ++ s.queue
  log : s.log = commands n events

variable {n : Nat} {events : List Event} {s : Script}

@[simp] theorem given_concat (e : Event) :
    given n (events ++ [e]) = given n events ++ e.givenTo n := by
  simp [given]

@[simp] theorem taken_concat (e : Event) :
    taken n (events ++ [e]) = taken n events ++ e.takenFrom n := by
  simp [taken]

@[simp] theorem commands_concat (e : Event) :
    commands n (events ++ [e]) = commands n events ++ e.commandsOn n := by
  simp [commands]

@[simp] theorem begun_concat (e : Event) :
    begun (events ++ [e]) = begun events ++ e.begun.toList := by
  cases e <;> simp [begun, Event.begun]

/-- Outcomes handed in are queued after all others. -/
theorem Balanced.given (h : Balanced n events s) (outcomes : List Outcome) :
    Balanced n (events ++ [.given n outcomes]) { s with queue := s.queue ++ outcomes } := by
  constructor
  · simp [Event.givenTo, Event.takenFrom, h.queue]
  · simp [Event.commandsOn, h.log]

/-- A run takes the oldest outcome, or none at all. -/
theorem Balanced.began (h : Balanced n events s) (c : Command) :
    Balanced n (events ++ [.began n c s.queue.head?]) (s.take c).2 := by
  constructor
  · simp [Event.givenTo, Event.takenFrom, Script.take, Script.head_append_next, h.queue]
  · simp [Event.commandsOn, Script.take, h.log]

/-- An event that does nothing to a script. -/
def Event.Spares (n : Nat) (e : Event) : Prop :=
  e.givenTo n = [] ∧ e.takenFrom n = [] ∧ e.commandsOn n = []

/-- An event that has nothing to do with a script leaves its account as it is. -/
theorem Balanced.spared (h : Balanced n events s) {e : Event} (hspares : e.Spares n) :
    Balanced n (events ++ [e]) s := by
  obtain ⟨hgiven, htaken, hcommands⟩ := hspares
  constructor
  · simp [hgiven, htaken, h.queue]
  · simp [hcommands, h.log]

/-! ## One act -/

/-- The script of a number, empty if there is none. -/
def scriptAt (scripts : List Script) (n : Nat) : Script := scripts[n]?.getD ⟨[], []⟩

theorem scriptAt_append (scripts : List Script) (t : Script) (n : Nat) :
    scriptAt (scripts ++ [t]) n = if n = scripts.length then t else scriptAt scripts n := by
  by_cases hn : n = scripts.length
  · rw [if_pos hn, scriptAt, hn, List.getElem?_concat_length]
    rfl
  · rw [if_neg hn, scriptAt, scriptAt]
    rcases Nat.lt_or_gt_of_ne hn with hlt | hgt
    · rw [List.getElem?_append_left hlt]
    · rw [List.getElem?_eq_none (by simp; omega), List.getElem?_eq_none (by omega)]

theorem scriptAt_set {scripts : List Script} {m : Nat} (hm : scripts[m]? = some s) (t : Script)
    (n : Nat) : scriptAt (scripts.set m t) n = if n = m then t else scriptAt scripts n := by
  obtain ⟨hlt, -⟩ := List.getElem?_eq_some_iff.mp hm
  by_cases hn : n = m
  · rw [if_pos hn, scriptAt, hn, List.getElem?_set_self hlt]
    rfl
  · rw [if_neg hn, scriptAt, List.getElem?_set_ne (Ne.symm hn), scriptAt]

/-- Where one script changes, and the event is about no other, all stay what the events make of
    them. -/
theorem balanced_of_change {scripts left : List Script} {m : Nat} {t : Script} {e : Event}
    (h : ∀ n, Balanced n events (scriptAt scripts n))
    (hleft : ∀ n, scriptAt left n = if n = m then t else scriptAt scripts n)
    (hm : Balanced m (events ++ [e]) t) (hother : ∀ n, n ≠ m → e.Spares n) :
    ∀ n, Balanced n (events ++ [e]) (scriptAt left n) := by
  intro n
  rw [hleft n]
  split
  case isTrue hn => exact hn ▸ hm
  case isFalse hn => exact (h n).spared (hother n hn)

theorem getElem?_concat_eq_some_iff {α : Type} {l : List α} {x y : α} {k : Nat} :
    (l ++ [x])[k]? = some y ↔ l[k]? = some y ∨ k = l.length ∧ x = y := by
  rcases Nat.lt_trichotomy k l.length with hlt | rfl | hgt
  · rw [List.getElem?_append_left hlt]
    simp [Nat.ne_of_lt hlt]
  · rw [List.getElem?_concat_length, List.getElem?_eq_none (Nat.le_refl _)]
    simp
  · rw [List.getElem?_eq_none (by simp; omega), List.getElem?_eq_none (by omega)]
    simp [Nat.ne_of_gt hgt]

theorem HasAnswered.concat {k : Nat} (h : HasAnswered events k) (e : Event) :
    HasAnswered (events ++ [e]) k := by
  obtain ⟨cancelled, answer, hmem⟩ := h
  exact ⟨cancelled, answer, List.mem_append_left _ hmem⟩

/-- The runs of a pool are those that began: each has answered, or it still has what it took
    along. -/
structure Underway (events : List Event) (runs : List (Option (Command × Outcome))) : Prop where
  length : runs.length = (begun events).length
  unanswered : ∀ (k : Nat) c outcome, runs[k]? = some (some (c, outcome)) →
    ∃ first : Option Outcome, (begun events)[k]? = some (c, first) ∧ first.getD (.exit 0) = outcome
  answered : ∀ (k : Nat), runs[k]? = some none → HasAnswered events k

variable {runs : List (Option (Command × Outcome))}

/-- An event that begins no run leaves the runs as they are. -/
theorem Underway.concat (h : Underway events runs) {e : Event} (he : e.begun = none) :
    Underway (events ++ [e]) runs := by
  have hsame : begun (events ++ [e]) = begun events := by simp [he]
  exact ⟨hsame ▸ h.length, hsame ▸ h.unanswered, fun k hk => (h.answered k hk).concat e⟩

/-- A run that begins has the next number. -/
theorem Underway.began (h : Underway events runs) (n : Nat) (c : Command) (first : Option Outcome) :
    Underway (events ++ [.began n c first]) (runs ++ [some (c, first.getD (.exit 0))]) := by
  have hbegun :
      begun (events ++ [.began n c first]) = begun events ++ [(c, first)] := by simp [Event.begun]
  refine ⟨by simp [hbegun, h.length], fun k d outcome hk => ?_, fun k hk => ?_⟩
  · rw [hbegun]
    rcases getElem?_concat_eq_some_iff.mp hk with hk | ⟨hlast, hrun⟩
    · obtain ⟨old, hold, houtcome⟩ := h.unanswered k d outcome hk
      exact ⟨old, getElem?_concat_eq_some_iff.mpr (.inl hold), houtcome⟩
    · cases hrun
      exact ⟨first, getElem?_concat_eq_some_iff.mpr (.inr ⟨hlast.trans h.length, rfl⟩), rfl⟩
  · rcases getElem?_concat_eq_some_iff.mp hk with hk | ⟨-, hrun⟩
    · exact (h.answered k hk).concat _
    · nomatch hrun

/-- A run that answers is done. -/
theorem Underway.finished (h : Underway events runs) (k : Nat) (cancelled : Bool)
    (answer : Except IoError Int) :
    Underway (events ++ [.answered k cancelled answer]) (runs.set k none) := by
  have hlater := h.concat (e := .answered k cancelled answer) rfl
  refine ⟨by rw [List.length_set, hlater.length], fun j c outcome hj => ?_, fun j hj => ?_⟩
  · rw [List.getElem?_set] at hj
    split at hj
    case isTrue => split at hj <;> nomatch hj
    case isFalse => exact hlater.unanswered j c outcome hj
  · rw [List.getElem?_set] at hj
    split at hj
    case isTrue hkj => exact hkj ▸
      ⟨cancelled, answer, List.mem_append_right _ (List.mem_singleton_self _)⟩
    case isFalse => exact hlater.answered j hj

/-- What an act can do to a pool, and what there is to see of it. -/
inductive Moves (pool : ScriptPool) : ScriptPool → Option Event → Prop
  | nothing : Moves pool pool none
  | made (outcomes : List Outcome) :
      Moves pool { pool with scripts := pool.scripts ++ [⟨outcomes, []⟩],
                             holders := pool.holders ++ [pool.scripts.length] }
        (some (.given pool.scripts.length outcomes))
  | cloned {runner n : Nat} (hholds : pool.holders[runner]? = some n) :
      Moves pool { pool with holders := pool.holders ++ [n] } none
  | pushed {n : Nat} {s : Script} (hs : pool.scripts[n]? = some s) (outcome : Outcome) :
      Moves pool { pool with scripts := pool.scripts.set n (s.push outcome) }
        (some (.given n [outcome]))
  | started {n : Nat} {s : Script} (hs : pool.scripts[n]? = some s) (c : Command) :
      Moves pool { pool with scripts := pool.scripts.set n (s.take c).2,
                             runs := pool.runs ++ [some (c, (s.take c).1)] }
        (some (.began n c s.queue.head?))
  | finished {k : Nat} {c : Command} {outcome : Outcome}
      (hrun : pool.runs[k]? = some (some (c, outcome))) (cancelled : Bool) :
      Moves pool { pool with runs := pool.runs.set k none }
        (some (.answered k cancelled (Script.reply cancelled c outcome)))
  | told {n : Nat} {s : Script} (hs : pool.scripts[n]? = some s) :
    Moves pool pool (some (.told n s.log))

/-- A runner that is held has a script in the pool. -/
theorem scripts_of_held {pool : ScriptPool} {runner : Nat} (h : pool.held runner = some (n, s)) :
    pool.holders[runner]? = some n ∧ pool.scripts[n]? = some s := by
  obtain ⟨m, hm, hmap⟩ := Option.bind_eq_some_iff.mp h
  obtain ⟨t, ht, heq⟩ := Option.map_eq_some_iff.mp hmap
  cases heq
  exact ⟨hm, ht⟩

/-- An act makes one of the moves.  The cases are those of the acts; one through a runner or a run
    that is not there does nothing. -/
theorem step_cases (pool : ScriptPool) (act : Act) :
    pool.Moves (pool.step act).1 (pool.step act).2 := by
  cases act with
  | make outcomes => exact .made outcomes
  | clone runner =>
    -- from here on there is a runner or a run to be looked up, and `split` asks whether it is
    -- there
    simp only [step]
    split
    case h_1 => exact .nothing
    case h_2 hholds => exact .cloned hholds
  | push runner outcome =>
    simp only [step]
    split
    case h_1 => exact .nothing
    case h_2 hheld => exact .pushed (scripts_of_held hheld).2 outcome
  | start runner c =>
    simp only [step]
    split
    case h_1 => exact .nothing
    case h_2 hheld => exact .started (scripts_of_held hheld).2 c
  | finish k cancelled =>
    simp only [step]
    split
    case h_1 hrun => exact .finished hrun cancelled
    case h_2 => exact .nothing
  | calls runner =>
    simp only [step]
    split
    case h_1 => exact .nothing
    case h_2 hheld => exact .told (scripts_of_held hheld).2

/-- A pool is what the events make of it. -/
structure Kept (events : List Event) (pool : ScriptPool) : Prop where
  balanced : ∀ n, Balanced n events (scriptAt pool.scripts n)
  holders : ∀ n ∈ pool.holders, n < pool.scripts.length
  underway : Underway events pool.runs

variable {pool left : ScriptPool} {event : Option Event}

theorem scriptAt_of_getElem? {scripts : List Script} (hs : scripts[n]? = some s) :
    scriptAt scripts n = s := by
  rw [scriptAt, hs]
  rfl

/-- Another script is not in question. -/
theorem spares_given {m : Nat} (hn : n ≠ m) (outcomes : List Outcome) :
    (Event.given m outcomes).Spares n :=
  ⟨if_neg (Ne.symm hn), rfl, rfl⟩

theorem spares_began {m : Nat} (hn : n ≠ m) (c : Command) (first : Option Outcome) :
    (Event.began m c first).Spares n :=
  ⟨rfl, if_neg (Ne.symm hn), if_neg (Ne.symm hn)⟩

/-- What an act does to the pool is what its event says. -/
theorem Kept.moves (h : Kept events pool) (hmoves : pool.Moves left event) :
    Kept (events ++ event.toList) left := by
  cases hmoves with
  | nothing => exact (List.append_nil events).symm ▸ h
  | made outcomes =>
    -- the new script begins with an empty account, and all others are spared
    refine ⟨?_, ?_, h.underway.concat rfl⟩
    · have hfresh : Balanced pool.scripts.length events ⟨[], []⟩ := by
        have hlast := h.balanced pool.scripts.length
        rwa [scriptAt, List.getElem?_eq_none (Nat.le_refl _)] at hlast
      exact balanced_of_change h.balanced (scriptAt_append _ _) (hfresh.given outcomes)
        fun n hn => spares_given hn outcomes
    · intro n hn
      rw [List.length_append, List.length_singleton]
      rcases List.mem_append.mp hn with hn | hn
      · exact Nat.lt_succ_of_lt (h.holders n hn)
      · exact List.mem_singleton.mp hn ▸ Nat.lt_succ_self _
  | cloned hholds =>
    refine (List.append_nil events).symm ▸ ⟨h.balanced, ?_, h.underway⟩
    intro m hm
    rcases List.mem_append.mp hm with hm | hm
    · exact h.holders m hm
    · exact h.holders m (List.mem_singleton.mp hm ▸ List.mem_of_getElem? hholds)
  | @pushed n s hs outcome =>
    refine ⟨?_, ?_, h.underway.concat rfl⟩
    · have hbalanced := scriptAt_of_getElem? hs ▸ h.balanced n
      exact balanced_of_change h.balanced (scriptAt_set hs _) (hbalanced.given [outcome])
        fun m hm => spares_given hm [outcome]
    · simpa using h.holders
  | @started n s hs c =>
    -- the script takes and writes down at once, and the run begun is the one that has to answer
    refine ⟨?_, ?_, ?_⟩
    · have hbalanced := scriptAt_of_getElem? hs ▸ h.balanced n
      exact balanced_of_change h.balanced (scriptAt_set hs _) (hbalanced.began c)
        fun m hm => spares_began hm c s.queue.head?
    · simpa using h.holders
    · have hbegan := h.underway.began n c s.queue.head?
      rwa [← Script.next_fst] at hbegan
  | @finished k c outcome hrun cancelled =>
    exact ⟨fun n => (h.balanced n).spared ⟨rfl, rfl, rfl⟩, h.holders,
      h.underway.finished k cancelled _⟩
  | told hs =>
    exact ⟨fun n => (h.balanced n).spared ⟨rfl, rfl, rfl⟩, h.holders, h.underway.concat rfl⟩

/-- What there is to see of an act is what the events before it require. -/
theorem Kept.fits (h : Kept events pool) {e : Event} (hmoves : pool.Moves left (some e)) :
    e.Fits events := by
  cases hmoves with
  | made outcomes => trivial
  | pushed hs outcome => trivial
  | @started n s hs c => exact ⟨s.queue, (scriptAt_of_getElem? hs ▸ h.balanced n).queue, rfl⟩
  | @finished k c outcome hrun cancelled =>
    obtain ⟨first, hbegun, hfirst⟩ := h.underway.unanswered k c outcome hrun
    refine ⟨c, first, hbegun, ?_⟩
    cases cancelled with
    | true => exact ⟨_, rfl, rfl⟩
    | false => exact hfirst ▸ Script.answered c outcome
  | @told n s hs => exact (scriptAt_of_getElem? hs ▸ h.balanced n).log

/-! ## Rows of acts -/

/-- A row of acts keeps the accounts, and every event fits those before it. -/
theorem Kept.run (h : Kept events pool) (acts : List Act) :
    Kept (events ++ (pool.run acts).2) (pool.run acts).1
    ∧ ∀ before e after, (pool.run acts).2 = before ++ e :: after → e.Fits (events ++ before) := by
  induction acts generalizing pool events with
  | nil =>
    refine ⟨(List.append_nil events).symm ▸ h, fun before e after hsplit => ?_⟩
    exact absurd hsplit.symm (List.append_ne_nil_of_right_ne_nil _ (List.cons_ne_nil _ _))
  | cons act rest ih =>
    have hmoves := step_cases pool act
    obtain ⟨hkept, hfits⟩ := ih (h.moves hmoves)
    refine ⟨by rw [ScriptPool.run, ← List.append_assoc]; exact hkept,
      fun before e after hsplit => ?_⟩
    rw [ScriptPool.run] at hsplit
    cases hevent : (pool.step act).2 with
    | none =>
      -- an act without an event changes nothing of what there was to see
      simp only [hevent, Option.toList_none, List.nil_append, List.append_nil] at hsplit hfits
      exact hfits before e after hsplit
    | some first =>
      -- an event of the row is the first one, or one of those after it, whose past is longer by
      -- one
      simp only [hevent, Option.toList_some, List.singleton_append] at hsplit hfits
      rcases List.cons_eq_append_iff.mp hsplit with ⟨rfl, hcons⟩ | ⟨before, rfl, hrest⟩
      · obtain ⟨rfl, -⟩ := List.cons.inj hcons
        rw [List.append_nil]
        exact h.fits (hevent ▸ hmoves)
      · have hlater := hfits before e after hrest
        rwa [List.append_assoc, List.singleton_append] at hlater

/-- Nothing has been given to, taken from or run on any script of an empty pool. -/
theorem kept_empty : Kept [] empty where
  balanced _ := ⟨rfl, rfl⟩
  holders _ hn := nomatch hn
  underway := ⟨rfl, fun _ _ _ hk => (nomatch hk), fun _ hk => (nomatch hk)⟩

/-- Everything done through a runner happens to the script that it holds. -/
structure Serves (pool : ScriptPool) (runner n : Nat) (s : Script) : Prop where
  scripts : pool.scripts[n]? = some s
  clone : (pool.step (.clone runner)).1.holders = pool.holders ++ [n]
  push : ∀ outcome, (pool.step (.push runner outcome)).2 = some (.given n [outcome])
  start : ∀ c, (pool.step (.start runner c)).2 = some (.began n c s.queue.head?)
  calls : (pool.step (.calls runner)).2 = some (.told n s.log)
  /-- With nothing between its parts, a run is that of the scripted runner. -/
  run : ∀ c cancelled, pool.run [.start runner c, .finish pool.runs.length cancelled]
    = ({ pool with scripts := pool.scripts.set n (Script.runner cancelled c s).2,
                   runs := pool.runs ++ [none] },
      [.began n c s.queue.head?,
        .answered pool.runs.length cancelled (Script.runner cancelled c s).1])

/-- A runner of a pool serves the script that it holds. -/
theorem Kept.serves (h : Kept events pool) {runner : Nat}
    (hholds : pool.holders[runner]? = some n) : ∃ s, Serves pool runner n s := by
  have hlt := h.holders n (List.mem_of_getElem? hholds)
  have hscript : pool.scripts[n]? = some pool.scripts[n] := List.getElem?_eq_getElem hlt
  have hheld : pool.held runner = some (n, pool.scripts[n]) := by
    rw [held, hholds, Option.bind_some, hscript, Option.map_some]
  refine ⟨pool.scripts[n], hscript, ?clone, ?push, ?start, ?calls, ?run⟩
  case clone => simp only [step, hholds]
  case push => simp only [step, hheld, implies_true]
  case start => simp only [step, hheld, implies_true]
  case calls => simp only [step, hheld]
  case run =>
    intro c cancelled
    simp [ScriptPool.run, step, hheld, Script.runner_eq]

/-- Whatever is done, in whatever order, with any number of scripts through any number of clones,
    and with the parts of runs interleaved: at every moment the outcomes given to a script are
    those that runs took, in this order, followed by those still queued, and its log has the
    commands of its runs.  Every event is what the events before it require (`Event.Fits`).
    Nothing that is done through a runner is lost, and every run that began has answered or will
    when it is asked to. -/
theorem loses_and_reorders_nothing {acts : List Act} (hrun : empty.run acts = (pool, events)) :
    (∀ (n : Nat) s, pool.scripts[n]? = some s →
      given n events = taken n events ++ s.queue ∧ s.log = commands n events)
    ∧ (∀ before e after, events = before ++ e :: after → e.Fits before)
    ∧ (∀ (runner : Nat) n, pool.holders[runner]? = some n → ∃ s, Serves pool runner n s)
    ∧ ∀ k < (begun events).length, HasAnswered events k ∨ ∀ cancelled, ∃ answer,
      (pool.step (.finish k cancelled)).2 = some (.answered k cancelled answer) := by
  obtain ⟨hkept, hfits⟩ := kept_empty.run acts
  rw [hrun] at hkept hfits
  refine ⟨fun n s hs => ?_, hfits, fun runner n => hkept.serves, fun k hk => ?_⟩
  · have hbalanced := scriptAt_of_getElem? hs ▸ hkept.balanced n
    exact ⟨hbalanced.queue, hbalanced.log⟩
  · have hlt : k < pool.runs.length := by rw [hkept.underway.length]; exact hk
    cases hk : pool.runs[k] with
    | none => exact .inl (hkept.underway.answered k (List.getElem?_eq_some_iff.mpr ⟨hlt, hk⟩))
    | some r =>
      have hopen : pool.runs[k]? = some (some (r.1, r.2)) := List.getElem?_eq_some_iff.mpr ⟨hlt, hk⟩
      exact .inr fun cancelled => ⟨Script.reply cancelled r.1 r.2, by simp only [step, hopen]⟩

/-! ## Two clones -/

def anyCommand : Command := ⟨"true", []⟩

/-- A script of one status, and a clone of its runner.  Both begin a run: the first takes the
    status, the second finds nothing.  What is pushed then is taken by a run of the clone whose
    token is cancelled, and the run after that finds nothing again. -/
def cloneActs : List Act :=
  [.make [.exit 3], .clone 0, .start 0 anyCommand, .start 1 anyCommand,
    .push 0 (.spawnError .notFound), .start 1 anyCommand, .finish 2 true, .finish 1 false,
      .finish 0 false, .start 0 anyCommand,
    .finish 3 false, .calls 1]

def cloneEvents : List Event :=
  [.given 0 [.exit 3], .began 0 anyCommand (some (.exit 3)), .began 0 anyCommand none,
    .given 0 [.spawnError .notFound], .began 0 anyCommand (some (.spawnError .notFound)),
    .answered 2 true (.error (Runner.waitCancelled anyCommand)), .answered 1 false (.ok 0),
    .answered 0 false (.ok 3), .began 0 anyCommand none, .answered 3 false (.ok 0),
    .told 0 (.replicate 4 anyCommand)]

def clonePool : ScriptPool := ⟨[⟨[], .replicate 4 anyCommand⟩], [0, 0], .replicate 4 none⟩

/-- Two clones and one outcome pushed between two runs: the run that finds no outcome takes none,
    and the outcome goes to the run after it. -/
theorem loses_and_reorders_nothing_clones :
    empty.run cloneActs = (clonePool, cloneEvents)
    ∧ given 0 cloneEvents = taken 0 cloneEvents ++ []
    ∧ (∀ before e after, cloneEvents = before ++ e :: after → e.Fits before)
    ∧ ∃ s, Serves clonePool 1 0 s := by
  have hrun : empty.run cloneActs = (clonePool, cloneEvents) := rfl
  obtain ⟨hscripts, hfits, hserves, -⟩ := loses_and_reorders_nothing hrun
  exact ⟨hrun, (hscripts 0 _ rfl).1, hfits, hserves 1 0 rfl⟩

end ScriptPool

end ProxyTrust
