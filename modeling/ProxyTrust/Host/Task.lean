/-
  Tasks: what a program does to the files, which may take time.

  A task ends with a value, or it waits and goes on with the files as they are then.  Everything
  but waiting takes no time.

  Tasks follow each other by `bind`, so that programs over files are written as monadic ones
  (`Timed`).  `runFor` runs a task for some time, with nothing else touching the files: it has
  ended by then, or it is waiting still and can be gone on with later.
-/
import ProxyTrust.Files.FileSystem

namespace ProxyTrust

/-- A task at the point up to which it has run, with the files that it leaves. -/
inductive Task (α : Type) where
  | done (value : α) (files : FileSystem)
  | wait (milliseconds : Nat) (files : FileSystem) (next : FileSystem → Task α)

namespace Task

variable {α β : Type}

/-- A task followed by another one that depends on its value. -/
def bind (task : Task α) (next : α → FileSystem → Task β) : Task β :=
  match task with
  | .done value files => next value files
  | .wait time files later => .wait time files fun files => (later files).bind next

/-- What a task has come to after some time. -/
inductive Progress (α : Type) where
  | ended (value : α) (files : FileSystem)
  /-- It wakes up after some more time. -/
  | waiting (milliseconds : Nat) (files : FileSystem) (next : FileSystem → Task α)

/-- A task run for some time, with nothing else touching the files. -/
def runFor (time : Nat) : Task α → Progress α
  | .done value files => .ended value files
  | .wait needed files next =>
    if needed ≤ time then (next files).runFor (time - needed)
    else .waiting (needed - time) files next

end Task

/-- A program over files that may take time. -/
abbrev Timed (α : Type) := FileSystem → Task α

instance : Monad Timed where
  pure value := fun files => .done value files
  bind program next := fun files => (program files).bind next

namespace Timed

/-- The files as they are. -/
def files : Timed FileSystem := fun fs => .done fs fs

/-- Other files. -/
def setFiles (fs : FileSystem) : Timed Unit := fun _ => .done () fs

/-- A wait. -/
def pause (milliseconds : Nat) : Timed Unit := fun fs => .wait milliseconds fs fun fs => .done () fs

end Timed

end ProxyTrust
