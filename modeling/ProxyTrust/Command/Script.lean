/-
  Scripted runners: answers given in advance.

  A script is a queue of outcomes and a log of the commands that were run.  A run takes the oldest
  outcome, or success if there is none left; a run whose wait is cancelled takes it as well.

  The log tells the commands in the order in which they ran, whatever was answered, so that what
  an operation does to a system can be read off it.
-/
import ProxyTrust.Command.Runner

namespace ProxyTrust

/-- An outcome given in advance. -/
inductive Outcome where
  | exit (status : Int)
  /-- The program does not start, with an error of this kind. -/
  | spawnError (kind : IoKind)
  deriving Repr, DecidableEq

/-- Outcomes to come, oldest first, and commands run, oldest first. -/
structure Script where
  queue : List Outcome
  log : List Command
  deriving Repr, DecidableEq

namespace Script

/-- One more outcome, after all others. -/
def push (s : Script) (outcome : Outcome) : Script := { s with queue := s.queue ++ [outcome] }

/-- The outcome of the next run, and those after it. -/
def next : List Outcome → Outcome × List Outcome
  | [] => (.exit 0, [])
  | outcome :: rest => (outcome, rest)

/-- What a run answers for an outcome. -/
def answer (c : Command) : Outcome → Except IoError Int
  | .exit status => .ok status
  | .spawnError kind =>
    let program := c.program
    .error (.custom kind s!"scripted spawn failure for `{program}`")

/-- The runner of scripts, with a token that may be cancelled. -/
def runner (cancelled : Bool) : Runner Script := fun c s =>
  let (outcome, queue) := next s.queue
  (if cancelled then .error (Runner.waitCancelled c) else answer c outcome, ⟨queue, s.log ++ [c]⟩)

end Script

end ProxyTrust
