/-
  Frames: the surroundings of a process.

  A process has a name, arguments, a number, an input and two channels of output.  The parameters
  of a shell are read off its frame.

  Redirections change what the numbers 0, 1 and 2 stand for: the input, the output and the errors.
  They are carried out from left to right, each of them in the frame that those before it have
  left; a file that was opened for output is there, and empty, even where a later one fails.

  What is written to a file goes to its end, as several channels may lead there.
-/
import ProxyTrust.Host.Task
import ProxyTrust.Host.Utility
import ProxyTrust.Shell.Script

namespace ProxyTrust.Host

open Shell (Parameter Redirect)

/-! ## Channels -/

/-- Where output goes. -/
inductive Channel where
  /-- To someone who does not keep it. -/
  | away
  /-- To the end of a file. -/
  | file (place : Location)
  deriving Repr, DecidableEq

/-- Output written. -/
def Channel.write (channel : Channel) (output : List UInt8) (fs : FileSystem) : FileSystem :=
  match channel with
  | .away => fs
  | .file place =>
    match fs.at? place with
    | some (.file content mode) => fs.put place (.file (content ++ output) mode)
    | _ => fs

/-- The surroundings of a process. -/
structure Frame where
  /-- The name and the arguments that a script sees. -/
  name : List Char
  arguments : List (List Char)
  process : Nat
  input : Input
  output : Channel
  errors : Channel
  deriving Repr, DecidableEq

namespace Frame

/-- The value of a parameter after a command with the status `last`. -/
def value (frame : Frame) (last : Nat) : Parameter → List Char
  | .argument 0 => frame.name
  | .argument (n + 1) => frame.arguments.getD n []
  | .count => Text.decimal frame.arguments.length
  | .process => Text.decimal frame.process
  | .status => Text.decimal last

/-- The channel of a number. -/
def channel? (frame : Frame) : Nat → Option Channel
  | 1 => some frame.output
  | 2 => some frame.errors
  | _ => none

/-- The frame with another channel for a number; numbers that no program here uses are let go. -/
def setChannel (frame : Frame) (number : Nat) (channel : Channel) : Frame :=
  match number with
  | 1 => { frame with output := channel }
  | 2 => { frame with errors := channel }
  | _ => frame

/-- A file opened for output, empty unless it is appended to. -/
def openOutput (fs : FileSystem) (p : Path) (append : Bool) : Option (Channel × FileSystem) :=
  if p = nullDevice || p = zeroDevice then some (.away, fs)
  else match fs.placeToWrite p with
    | .error _ => none
    | .ok place =>
      if append && (fs.at? place).isSome then some (.file place, fs)
      else some (.file place, fs.putFile place [] FileSystem.plainMode)

/-- One redirection. -/
def redirectOne (frame : Frame) (fs : FileSystem) (r : Redirect) : Option (Frame × FileSystem) :=
  let target := (Shell.fields (frame.value 0) r.target).flatten
  match r.kind with
  | .read =>
    if r.number = 0 then (inputOf? fs (pathOf target)).map fun input => ({ frame with input }, fs)
    else none
  | .duplicate => do
    let number ← Text.readDigits? target
    if number = 0 && r.number = 0 then return (frame, fs)
    return (frame.setChannel r.number (← frame.channel? number), fs)
  | kind => do
    let (channel, fs) ← openOutput fs (pathOf target) (kind = .append)
    return (frame.setChannel r.number channel, fs)

/-- Redirections in turn.  Files that were opened before one fails stay. -/
def redirect (frame : Frame) : List Redirect → Timed (Option Frame)
  | [] => return some frame
  | r :: rest => do
    match frame.redirectOne (← Timed.files) r with
    | none => return none
    | some (frame, fs) =>
      Timed.setFiles fs
      redirect frame rest

end Frame

end ProxyTrust.Host
