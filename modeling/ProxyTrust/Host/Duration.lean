/-
  Durations and signals, as they are written in arguments.

  1. **Durations** — a number with or without decimals and a unit, which is the second where none
     is given.  Several arguments add up.  Parts of a millisecond are dropped.

  2. **Signals** — by number or by name, in front of the processes.  Where none is given the
     signal is the one that asks a process to end.
-/
import ProxyTrust.Text.Numeral
import ProxyTrust.Text.Search

namespace ProxyTrust.Host

/-! ## Durations -/

/-- The milliseconds of a unit of time. -/
def unitOf? (c : Char) : Option Nat :=
  match c with
  | 's' => some 1000
  | 'm' => some 60000
  | 'h' => some 3600000
  | 'd' => some 86400000
  | _ => none

/-- The milliseconds of a number of units, with or without decimals. -/
def units? (unit : Nat) (s : List Char) : Option Nat :=
  match Text.cutFirst? ['.'] s with
  | none => (Text.readDigits? s).map (· * unit)
  | some (whole, part) => do
    let n ← if whole.isEmpty then some 0 else Text.readDigits? whole
    let f ← if part.isEmpty then some 0 else Text.readDigits? part
    if whole.isEmpty && part.isEmpty then none
    else return n * unit + f * unit / Nat.pow 10 part.length

/-- The milliseconds of a duration. -/
def duration? (s : List Char) : Option Nat :=
  match s.getLast?.bind unitOf? with
  | some unit => units? unit s.dropLast
  | none => units? 1000 s

/-- The milliseconds of all arguments together, of which there has to be one. -/
def durations? (arguments : List (List Char)) : Option Nat :=
  if arguments.isEmpty then none else (arguments.mapM duration?).map (·.foldl (· + ·) 0)

/-! ## Signals -/

/-- The names of signals. -/
def signalNames : List (String × Nat) :=
  [("HUP", 1), ("INT", 2), ("QUIT", 3), ("ILL", 4), ("TRAP", 5), ("ABRT", 6), ("BUS", 7),
    ("FPE", 8), ("KILL", 9), ("USR1", 10), ("SEGV", 11), ("USR2", 12), ("PIPE", 13), ("ALRM", 14),
    ("TERM", 15), ("CHLD", 17), ("CONT", 18), ("URG", 23), ("WINCH", 28)]

/-- The signals that end no process by themselves. -/
def harmlessSignals : List Nat := [0, 17, 18, 23, 28]

/-- The largest number of a signal. -/
def lastSignal : Nat := 64

/-- The number of a signal that is given by number or by name. -/
def signal? (s : List Char) : Option Nat :=
  match Text.readDigits? s with
  | some n => if n ≤ lastSignal then some n else none
  | none => (signalNames.find? fun entry => entry.1.toList == s).map (·.2)

/-- The signal and the processes of `kill`. -/
def killArguments? : List (List Char) → Option (Nat × List (List Char))
  | ['-', 's'] :: name :: processes => (signal? name).map (·, processes)
  | ['-', '-'] :: processes => some (15, processes)
  | ('-' :: name) :: processes => (signal? name).map (·, processes)
  | processes => some (15, processes)

end ProxyTrust.Host
