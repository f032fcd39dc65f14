/-
  The runner of real programs.

  1. **Time** — a wait that is cancelled leaves the program to itself: it goes on while time
     passes in later runs.

  2. **Waiting** — the end of a program and the cancellation of the wait are watched at once.
     Which of the two is seen, where both are there, is left open (`await`).

  3. **Running** — starting comes first, so that a program that is not there is told even when the
     wait is cancelled already.  A program gets no input, and its output is not kept.
-/
import ProxyTrust.Command.Toolbox
import ProxyTrust.Host.Process

namespace ProxyTrust

open Shell (Ended)

/-- The files of a system and the programs left to themselves, each with the time until it wakes
    up. -/
structure Host where
  files : FileSystem
  left : List (Nat × Timed Ended)

namespace Host

/-! ## Time -/

/-- A program that was left, after some time: the files, and what is left of it. -/
def resume (time : Nat) (files : FileSystem) (child : Nat × Timed Ended) :
    FileSystem × Option (Nat × Timed Ended) :=
  if time < child.1 then (files, some (child.1 - time, child.2))
  else match (child.2 files).runFor (time - child.1) with
    | .ended _ files => (files, none)
    | .waiting more files next => (files, some (more, next))

/-- All programs that were left, one after the other, for some time. -/
def resumeAll (time : Nat) : List (Nat × Timed Ended) → FileSystem →
    FileSystem × List (Nat × Timed Ended)
  | [], files => (files, [])
  | child :: rest, files =>
    let (files, child) := resume time files child
    let (files, rest) := resumeAll time rest files
    (files, child.toList ++ rest)

/-- Some time goes by. -/
def pass (host : Host) (time : Nat) : Host :=
  let (files, left) := resumeAll time host.left host.files
  ⟨files, left⟩

/-! ## Waiting -/

/-- A program waited for, until the wait is cancelled if it ever is: how it ended, or that it was
    left.  Where its end and the cancellation are there together, nothing settles which of them is
    seen first; `endFirst` says which one it was. -/
def await (endFirst : Bool) (cancelAfter : Option Nat) (host : Host) :
    Task Ended → Option Ended × Host
  | .done ended files =>
    (if cancelAfter = some 0 ∧ endFirst = false then none else some ended, { host with files })
  | .wait time files next =>
    match cancelAfter with
    | none =>
      let host := pass { host with files } time
      await endFirst none host (next host.files)
    | some limit =>
      if time < limit ∨ time = limit ∧ endFirst = true then
        let host := pass { host with files } time
        await endFirst (some (limit - time)) host (next host.files)
      else
        let host := pass { host with files } limit
        (none, { host with left := host.left ++ [(time - limit, next)] })

/-! ## Running -/

/-- What becomes of commands on some system: a program that is about to run, or the error that keeps
    it from starting. -/
abbrev Launch := Command → FileSystem → Except IoError (Timed Ended)

/-- How deep shells may start shells. -/
def depth : Nat := 64

/-- The surroundings of a program that is started from outside. -/
def outside : Frame := ⟨"sh".toList, [], 1000, .bytes [], .away, .away⟩

/-- A command as one of the known programs. -/
def launch : Launch := fun c fs =>
  if c.hasNul then .error .nulInCommand
  else match find c.program.toList fs with
    | .error e => .error e
    | .ok program =>
      if c.isTooBig then .error .tooBig
      else .ok (start depth program outside (c.args.map String.toList))

/-- The status that is told for the end of a program. -/
def statusOfEnd : Ended → Int
  | .status n => n
  | .exit n => n
  | .killed _ => Runner.signalled

/-- The runner of the programs of a system.  The wait is cancelled after a time, at once, or
    never. -/
def runnerOf (launch : Launch) (endFirst : Bool) (cancelAfter : Option Nat) : Runner Host :=
  fun c host =>
    match launch c host.files with
    | .error e => (.error e, host)
    | .ok program =>
      match await endFirst cancelAfter host (program host.files) with
      | (some ended, host) => (.ok (statusOfEnd ended), host)
      | (none, host) => (.error (Runner.waitCancelled c), host)

/-- The runner of the known programs, where a cancellation is seen before an end that is there
    too. -/
def runner (cancelAfter : Option Nat) : Runner Host := runnerOf launch false cancelAfter

end Host

end ProxyTrust
