/-
  Commands, and runners: what becomes of a command.

  1. **Commands** — a command is a program and its arguments, as they are handed to the operating
     system.  No shell reads them, so that a blank or a quote in an argument means nothing.

  2. **Runners** — a runner takes a command and a state and answers with an exit status, or with
     the error that kept the program from running to its end.  The state is the runner's own: a
     queue of answers, a set of tools, or a whole system.

  3. **Operations** — any status other than zero is an answer and no fault.  A row of commands is
     run to its end whatever the statuses are, and stops at the first error; `settle` makes an
     error a failure.
-/
import ProxyTrust.Fault

namespace ProxyTrust

/-! ## Commands -/

/-- A program and its arguments.  No shell reads them unless the program is one. -/
structure Command where
  program : String
  args : List String
  deriving Repr, DecidableEq

/-- The program and the arguments with single spaces between them. -/
def Command.text (c : Command) : String := " ".intercalate (c.program :: c.args)

/-- The program and the arguments. -/
def Command.words (c : Command) : List String := c.program :: c.args

/-- A NUL stands in a word; no operating system can take it. -/
def Command.hasNul (c : Command) : Bool := c.words.any fun s => s.toList.contains '\x00'

/-- The length that an argument must not reach, with the byte after its end. -/
def Command.argumentLimit : Nat := 131072

/-- An argument is too long to be handed over. -/
def Command.isTooBig (c : Command) : Bool := c.words.any fun s => argumentLimit ≤ s.utf8ByteSize

/-! ## Runners -/

/-- How commands are run, over a state of the world outside. -/
abbrev Runner (σ : Type) := Command → σ → Except IoError Int × σ

namespace Runner

variable {σ : Type}

/-- The error of a wait that was cancelled. -/
def waitCancelled (c : Command) : IoError :=
  let program := c.program
  .custom .interrupted s!"wait for `{program}` cancelled"

/-- The status told for a program that a signal ended. -/
def signalled : Int := -1

/-- A command run once: it exited with zero. -/
def runSucceeded (run : Runner σ) (c : Command) (s : σ) : Except Fault Bool × σ :=
  match run c s with
  | (.ok status, s) => (.ok (status == 0), s)
  | (.error e, s) => (.error (.ofRun c.program e), s)

/-- Commands run in turn: all exited with zero.  A status other than zero does not stop the row, an
    error does. -/
def runAll (run : Runner σ) : List Command → σ → Except Fault Bool × σ
  | [], s => (.ok true, s)
  | c :: rest, s =>
    match runSucceeded run c s with
    | (.error fault, s) => (.error fault, s)
    | (.ok ok, s) =>
      match runAll run rest s with
      | (.ok later, s) => (.ok (ok && later), s)
      | (.error fault, s) => (.error fault, s)

/-- The plain answer that a user sees: everything succeeded. -/
def settle : Except Fault Bool → Bool
  | .ok b => b
  | .error _ => false

end Runner

end ProxyTrust
