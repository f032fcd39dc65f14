/-
  Processes: programs that are started by name, among them the shell.

  1. **Programs** — a name without a slash is looked for among the known programs; a path leads to
     one of them in the directories of programs, or to a file that may be executed and names the
     shell.
  2. **Commands of the shell** — those that only a shell knows, and the programs that it starts.
  3. **Starting** — shells may start shells, to a bounded depth.
-/
import ProxyTrust.Host.Duration
import ProxyTrust.Host.Frame
import ProxyTrust.Shell.Run

namespace ProxyTrust.Host

open Shell (Ended Meaning Word)

/-! ## Programs -/

/-- A program. -/
inductive Program where
  | utility (utility : Utility)
  | sleep
  | shell
  /-- A file that a shell reads. -/
  | script (path : List Char)

/-- The program of a name. -/
def program? (name : List Char) : Option Program :=
  if name = "sh".toList then some .shell
  else if name = "sleep".toList then some .sleep
  else (utility? name).map .utility

/-- The directories of programs, with the slash after them. -/
def programDirectories : List (List Char) := ["/bin/".toList, "/usr/bin/".toList]

/-- The program that a path leads to in the directories of programs. -/
def programAt? (path : List Char) : Option Program :=
  programDirectories.findSome? fun directory => (Text.dropLead? directory path).bind program?

/-- The first line of a file that names the shell. -/
def shellLine : List UInt8 := Text.encodeUtf8 "#!/bin/sh\n".toList

/-- The file that a path leads to, as a program. -/
def fileProgram (path : List Char) (fs : FileSystem) : Except IoError Program :=
  match fs.find (pathOf path) with
  | .error e => .error e
  | .ok place =>
    match fs.at? place with
    | some (.file content mode) =>
      if mode &&& 0o111 = 0 then .error .accessDenied
      else if shellLine.isPrefixOf content then .ok (.script path)
      else .error .notExecutable
    | _ => .error .accessDenied

/-- The longest name that is looked for. -/
def nameLimit : Nat := 255

/-- The program of a name or a path, or the error that keeps it from starting. -/
def find (name : List Char) (fs : FileSystem) : Except IoError Program :=
  if name.contains '/' then
    match programAt? name with
    | some program => .ok program
    | none => fileProgram name fs
  else match program? name with
    | some program => .ok program
    | none => .error (if nameLimit < (pathOf name).bytes.length then .nameTooLong else .noEntry)

/-! ## The shell -/

/-- The status of a command that is not found. -/
def notFound : Nat := 127

/-- The status of a command that cannot be run. -/
def notRunnable : Nat := 126

/-- The status of a shell that is not used rightly. -/
def misuse : Nat := 2

/-- The largest status that `exit` takes. -/
def exitBound : Nat := 2147483647

/-- `kill`, by a process that knows only itself. -/
def kill (frame : Frame) (arguments : List (List Char)) : Ended :=
  match killArguments? arguments with
  | none => .status 1
  | some (signal, processes) =>
    if processes != [Text.decimal frame.process] then .status 1
    else if harmlessSignals.contains signal then .status 0
    else .killed signal

/-- `exit`. -/
def leave (last : Nat) : List (List Char) → Ended
  | [] => .exit last
  | n :: _ =>
    match Text.readDigits? n with
    | some n => if n ≤ exitBound then .exit (n % 256) else .exit misuse
    | none => .exit misuse

/-- The end of a process, for the shell that waited for it. -/
def ofProcess : Ended → Ended
  | .status n => .status n
  | .exit n => .status n
  | .killed signal => .status (128 + signal)

/-- The commands that are known in a shell. -/
def isKnown (name : List Char) : Bool :=
  ["exit".toList, ":".toList, "kill".toList, "command".toList].contains name
    || (program? name).isSome

/-- What a backslash and a letter stand for in the output of a shell; `c` ends the output. -/
def echoLetters : List (Char × UInt8) :=
  [('a', 7), ('b', 8), ('t', 9), ('n', 10), ('v', 11), ('f', 12), ('r', 13), ('\\', 92)]

/-- The bytes of a line with backslashes read, and whether the output goes on after them. -/
def echoBytes : List Char → List UInt8 × Bool
  | '\\' :: 'c' :: _ => ([], false)
  | '\\' :: c :: rest =>
    let (bytes, more) := echoBytes rest
    match echoLetters.find? (·.1 == c) with
    | some (_, b) => (b :: bytes, more)
    | none => (Text.encodeUtf8 ['\\', c] ++ bytes, more)
  | c :: rest =>
    let (bytes, more) := echoBytes rest
    (Text.encodeUtf8 [c] ++ bytes, more)
  | [] => ([], true)

/-- The words of `echo` and the end of its line. -/
def echoParts : List (List Char) → List (List Char) × List UInt8
  | ['-', 'n'] :: words => (words, [])
  | words => (words, [0x0A])

/-- `echo` in a shell. -/
def shellEcho (frame : Frame) (arguments : List (List Char)) : Timed Ended := do
  let (words, ending) := echoParts arguments
  let (bytes, more) := echoBytes ([' '].intercalate words)
  Timed.setFiles (frame.output.write (if more then bytes ++ ending else bytes) (← Timed.files))
  return .status 0

/-- `command -v`: the name is printed if it is known. -/
def showCommand (frame : Frame) (name : List Char) : Timed Ended := do
  if isKnown name then
    Timed.setFiles (frame.output.write (Text.encodeUtf8 (name ++ ['\n'])) (← Timed.files))
    return .status 0
  else return .status notFound

/-- What a shell is started with. -/
inductive Source where
  | text (script name : List Char) (arguments : List (List Char))
  | file (path : List Char) (arguments : List (List Char))
  | input
  /-- The options are not known, or the script is missing. -/
  | misused
  deriving Repr, DecidableEq

/-- What is left after the options, with a script among them or not. -/
def sourceOf (isText : Bool) : List (List Char) → Source
  | [] => if isText then .misused else .input
  | first :: rest =>
    if isText then .text first (rest.headD "sh".toList) rest.tail else .file first rest

/-- What the arguments start a shell with. -/
def shellSource (isText : Bool) : List (List Char) → Source
  | ['-', '-'] :: rest => sourceOf isText rest
  | ('-' :: letter :: letters) :: rest =>
    if (letter :: letters).all ['c', 'l'].contains then
      shellSource (isText || (letter :: letters).contains 'c') rest
    else .misused
  | rest => sourceOf isText rest

/-- A program started by a shell or from outside. -/
abbrev Starter := Program → Frame → List (List Char) → Timed Ended

/-- A command that is looked for by its name. -/
def startByName (start : Starter) (frame : Frame) (name : List Char)
    (arguments : List (List Char)) : Timed Ended := do
  match find name (← Timed.files) with
  | .error e =>
    if e = .notExecutable then
      return ofProcess
        (← start (.script name) { frame with process := frame.process + 1 } arguments)
    else return .status (if e = .accessDenied then notRunnable else notFound)
  | .ok program =>
    return ofProcess (← start program { frame with process := frame.process + 1 } arguments)

/-- A command of a shell after a command with the status `last`. -/
def shellCommand (start : Starter) (frame : Frame) (last : Nat) (words : List Word) : Timed Ended :=
  match words.flatMap (Shell.fields (frame.value last)) with
  | [] => return .status 0
  | name :: arguments =>
    match String.ofList name, arguments with
    | ":", _ => return .status 0
    | "exit", _ => return leave last arguments
    | "kill", _ => return kill frame arguments
    | "echo", _ => shellEcho frame arguments
    | "command", [] => return .status 0
    | "command", [['-', 'v'], wanted] => showCommand frame wanted
    | "command", wanted :: more => startByName start frame wanted more
    | _, _ => startByName start frame name arguments

/-- What commands mean to a shell. -/
def shellMeaning (start : Starter) : Meaning Timed Frame where
  redirect := Frame.redirect
  command := shellCommand start

/-- A script run by a shell. -/
def runText (start : Starter) (frame : Frame) (text : List Char) : Timed Ended :=
  match Shell.ofText? text with
  | none => return .status misuse
  | some script => Shell.run (shellMeaning start) frame 0 script

/-- The script in a file run by a shell. -/
def runFile (start : Starter) (frame : Frame) (path : List Char) (arguments : List (List Char)) :
    Timed Ended := do
  match (← Timed.files).read (pathOf path) with
  | .error _ => return .status misuse
  | .ok content => runText start { frame with name := path, arguments } (Text.decodeLossy content)

/-- A shell started with these arguments. -/
def shell (start : Starter) (frame : Frame) (arguments : List (List Char)) : Timed Ended :=
  match shellSource false arguments with
  | .misused => return .status misuse
  | .text script name arguments => runText start { frame with name, arguments } script
  | .input => runText start frame (Text.decodeLossy (allBytes frame.input))
  | .file path arguments => runFile start frame path arguments

/-- A utility run. -/
def runUtility (utility : Utility) (frame : Frame) (arguments : List (List Char)) :
    Timed Ended := do
  let result := utility frame.input arguments (← Timed.files)
  Timed.setFiles (frame.output.write result.output result.files)
  return .status result.status

/-- `sleep`. -/
def runSleep (arguments : List (List Char)) : Timed Ended :=
  match durations? arguments with
  | none => return .status 1
  | some time => do
    Timed.pause time
    return .status 0

/-- A program started, where shells may start shells to this depth. -/
def start : (depth : Nat) → Starter
  | _, .utility utility, frame, arguments => runUtility utility frame arguments
  | _, .sleep, _, arguments => runSleep arguments
  | 0, .shell, _, _ => return .status misuse
  | 0, .script _, _, _ => return .status misuse
  | depth + 1, .shell, frame, arguments => shell (start depth) frame arguments
  | depth + 1, .script path, frame, arguments => runFile (start depth) frame path arguments

end ProxyTrust.Host
