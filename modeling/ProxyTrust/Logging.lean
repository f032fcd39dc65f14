/-
  The log file: where it is, and what can go wrong when it is opened.

  1. **Names** — a log path is split into a directory and a name.  A path without a directory logs
     into the working directory, and one without a file name uses the usual name.

  2. **Opening** — the directory of the log path is made, then the file is opened for appending,
     so that what it held stays.  A directory that cannot be made is told; a file that cannot be
     opened stops the program, as does a name that is not UTF-8.
-/
import ProxyTrust.Fault
import ProxyTrust.Files.FileSystem

namespace ProxyTrust.Logging

/-- Why logging does not start. -/
inductive Failure where
  | noDirectory (path : Path) (source : IoError)
  | crash (crash : Crash)
  deriving Repr, DecidableEq

/-- The wording of a failure to make the directory, without its cause. -/
def noDirectoryMessage (path : Path) : String := "failed to create log directory " ++ path.display

/-- The usual name of a log file. -/
def usualName : Name := Text.encodeUtf8 "terasu-controller.log".toList

/-- The directory of a log path. -/
def directory (log : Path) : Path :=
  match log.parent? with
  | some above => if above.bytes = [] then ⟨Path.dot⟩ else above
  | none => ⟨Path.dot⟩

/-- The log file of a log path. -/
def file (log : Path) : Path :=
  let above := (directory log).bytes
  let name := log.fileName?.getD usualName
  if above.getLast? = some Path.separator then ⟨above ++ name⟩
  else ⟨above ++ [Path.separator] ++ name⟩

/-- A file opened for appending: it is there afterwards, and what it held stays. -/
def touch (fs : FileSystem) (path : Path) : Except IoError FileSystem :=
  match fs.placeToWrite path with
  | .error e => .error e
  | .ok place =>
    match fs.at? place with
    | some _ => .ok fs
    | none => .ok (fs.putFile place [] FileSystem.plainMode)

/-- The log file opened, with its directory. -/
def start (fs : FileSystem) (log : Path) : Except Failure Unit × FileSystem :=
  let above := directory log
  match fs.makeDirectories above with
  | (.error source, fs) => (.error (.noDirectory above source), fs)
  | (.ok (), fs) =>
    if (Text.decodeUtf8? (log.fileName?.getD usualName)).isNone then
      (.error (.crash (.logFile log .notUtf8)), fs)
    else match touch fs (file log) with
      | .ok fs => (.ok (), fs)
      | .error source => (.error (.crash (.logFile (file log) source)), fs)

end ProxyTrust.Logging
