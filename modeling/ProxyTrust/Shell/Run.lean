/-
  What a script does, given what its simple commands do.

  The meaning of simple commands and of redirections is a parameter, over any monad: the commands
  may answer from a table, change files or take time.  A status of zero is success.

  1. **Lists** — `&&` goes on after a status of zero, `||` after any other, and `;` in any case.
     The status of the last command that ran is handed to the next one and is the status of the
     list.

  2. **Leaving** — a shell that is left, or a signal, ends the whole script.  Parentheses make a
     shell of their own: leaving it is a status for the shell around it.

  3. **Redirections** — one that fails keeps its command from running, with a status other than
     zero.
-/
import ProxyTrust.Shell.Script

namespace ProxyTrust.Shell

/-- How a command ends. -/
inductive Ended where
  | status (n : Nat)
  /-- The shell is left with a status. -/
  | exit (n : Nat)
  /-- A signal ends the process. -/
  | killed (signal : Nat)
  deriving Repr, DecidableEq

/-- The meaning of simple commands, where a context says what numbers stand for. -/
structure Meaning (m : Type → Type) (Context : Type) where
  /-- The context after redirections, unless one of them fails. -/
  redirect : Context → List Redirect → m (Option Context)
  /-- A command, after a command with the given status. -/
  command : Context → Nat → List Word → m Ended

/-- The status after a redirection that failed. -/
def redirectFailed : Nat := 2

/-- The end of a shell of its own, for the shell around it. -/
def Ended.ofSubshell : Ended → Ended
  | exit n => status n
  | ended => ended

variable {m : Type → Type} [Monad m] {Context : Type}

/-- A command after redirections. -/
def redirected (meaning : Meaning m Context) (context : Context) (redirects : List Redirect)
    (body : Context → m Ended) : m Ended := do
  match ← meaning.redirect context redirects with
  | none => return .status redirectFailed
  | some context => body context

/-- A script run in a context, after a command with the status `last`. -/
def run (meaning : Meaning m Context) (context : Context) (last : Nat) : Script → m Ended
  | .nothing => return .status 0
  | .simple words redirects =>
    redirected meaning context redirects fun context => meaning.command context last words
  | .subshell body redirects =>
    redirected meaning context redirects fun context => do
      return (← run meaning context last body).ofSubshell
  | .andThen left right => do
    match ← run meaning context last left with
    | .status 0 => run meaning context 0 right
    | ended => return ended
  | .orElse left right => do
    match ← run meaning context last left with
    | .status 0 => return .status 0
    | .status n => run meaning context n right
    | ended => return ended
  | .inTurn left right => do
    match ← run meaning context last left with
    | .status n => run meaning context n right
    | ended => return ended

end ProxyTrust.Shell
