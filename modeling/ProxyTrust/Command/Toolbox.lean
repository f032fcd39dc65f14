/-
  Toolboxes: programs whose runs are known in advance, found by their names.

  A tool is a list of behaviours, the oldest first; after the last it exits with zero.  A program
  that is no tool, or a command that the operating system cannot take, does not start and leaves
  no trace.

  A behaviour may be an exit status, of which the system keeps the remainder by 256, the death by
  a signal, or an interruption by the user.  After an interruption every wait ends at once, also
  those of later commands.
-/
import ProxyTrust.Command.Runner

namespace ProxyTrust

/-- What a tool does when it is run. -/
inductive Behaviour where
  | exit (status : Int)
  /-- It dies of a signal. -/
  | killed
  /-- While it runs, the user interrupts the program that waits for it. -/
  | interrupt
  deriving Repr, DecidableEq

/-- Tools with the behaviours to come, the commands that ran, and whether waits are cancelled. -/
structure Toolbox where
  tools : List (String × List Behaviour)
  /-- Commands run, oldest first. -/
  log : List Command
  cancelled : Bool
  deriving Repr, DecidableEq

namespace Toolbox

/-- The behaviours of a tool, if there is one of that name. -/
def find? (box : Toolbox) (name : String) : Option (List Behaviour) :=
  (box.tools.find? (·.1 == name)).map (·.2)

/-- The toolbox after a run of the tool of a name. -/
def used (box : Toolbox) (c : Command) : Toolbox :=
  { box with
    tools := box.tools.map fun tool => if tool.1 = c.program then (tool.1, tool.2.tail) else tool
    log := box.log ++ [c] }

/-- A run that goes as the behaviour says. -/
def behave (c : Command) (behaviour : Behaviour) (box : Toolbox) : Except IoError Int × Toolbox :=
  let box := { box with cancelled := box.cancelled || behaviour == .interrupt }
  if box.cancelled then (.error (Runner.waitCancelled c), box)
  else match behaviour with
    | .exit status => (.ok (status % 256), box)
    | _ => (.ok Runner.signalled, box)

/-- The runner of a toolbox. -/
def runner : Runner Toolbox := fun c box =>
  if c.hasNul then (.error .nulInCommand, box)
  else match box.find? c.program with
    | none => (.error .noEntry, box)
    | some behaviours =>
      if c.isTooBig then (.error .tooBig, box)
      else behave c (behaviours.headD (.exit 0)) (box.used c)

end Toolbox

end ProxyTrust
