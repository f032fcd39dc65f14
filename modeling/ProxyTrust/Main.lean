/-
  The program as it is started by a user.

  1. **The outside** — arguments, clock and random bytes come from the system.  The entries on the
     paths that a run may touch are read, the run is computed on them, and what it changed is
     written back.

  2. **Commands for the user** — programs are not started here: the commands of the run are shown
     on the error output to be carried out by hand, and count as commands that failed.
-/
import ProxyTrust.CommandLine.Basic
import ProxyTrust.Files.Snapshot
import ProxyTrust.Program
import ProxyTrust.Rsa.Prime
import Std.Time.DateTime.Timestamp

open ProxyTrust

namespace ProxyTrust.Main

/-! ## Commands for the user -/

/-- The status told for a command that was not carried out. -/
def notCarriedOut : Int := 127

/-- The runner that only notes commands down. -/
def noteDown : Runner (List Command) := fun c noted => (.ok notCarriedOut, noted ++ [c])

/-- A command for the reader, each word quoted. -/
def shown (c : Command) : String :=
  " ".intercalate (c.words.map fun word => String.ofList (TrustStore.quote word.toList))

/-! ## The outside -/

/-- Random bytes. -/
def random (count : USize) : IO (List UInt8) := do
  return (← IO.getRandomBytes count).toList

/-- The moment by the clock. -/
def clock : IO Moment := do
  let nanos := (← Std.Time.Timestamp.now).toNanosecondsSinceUnixEpoch.val
  return Moment.ofUnix (nanos / 1000000000) (nanos % 1000000000).toNat 0

/-- The random input of a run. -/
def draw : IO Authority.Draw := do
  let key := (Rsa.Key.ofRandom? (← random 128) (← random 128)).getD (.ofPrimes 0 0)
  return ⟨key, ← random 16, key.sign⟩

/-- What stands at a location, as far as it can be read. -/
def entryAt (place : Location) : IO (Option Entry) := do
  try
    let content ← IO.FS.readBinFile place.path.display
    return some (.file content.toList 0o644)
  catch
    | .inappropriateType .. => return some .directory
    | _ => return none

/-- The entries on the way of a path added. -/
def readPath (fs : FileSystem) (p : Path) : IO FileSystem :=
  (fs.placesOf p).foldlM (fun fs place => do
    match ← entryAt place with
    | some entry => return if place = [] then fs else fs.put place entry
    | none => return fs) fs

/-- One of the rights for a user of a file. -/
def right (bits : Nat) : IO.AccessRight where
  read := bits &&& 4 != 0
  write := bits &&& 2 != 0
  execution := bits &&& 1 != 0

/-- A changed entry written. -/
def writeEntry (place : Location) (entry : Entry) : IO Unit := do
  let name := place.path.display
  match entry with
  | .directory => IO.FS.createDir name
  | .link _ => return
  | .file content mode =>
    IO.FS.writeBinFile name ⟨content.toArray⟩
    IO.setAccessRights name ⟨right (mode >>> 6), right (mode >>> 3), right mode⟩

/-- The files on which a run of an invocation is computed. -/
def gather (invocation : CommandLine.Invocation) : IO FileSystem := do
  let here := Path.ofString (← IO.currentDir).toString
  let fs ← readPath (.withHome (Path.components here.bytes).reverse) invocation.config
  match Config.load fs invocation.config with
  | .error _ => return fs
  | .ok config =>
    let paths := [Logging.file config.logPath, config.ca.certPath] ++ config.ca.keyPath.toList
    paths.foldlM readPath fs

/-- An invocation carried out. -/
def carryOut (invocation : CommandLine.Invocation) : IO Program.Report := do
  let before ← gather invocation
  let (report, after, commands) :=
    Program.carryOut noteDown (← draw) (← clock) invocation before []
  for (place, entry) in before.changes after do
    writeEntry place entry
  for c in commands do
    IO.eprintln (shown c)
  return report

/-- A command line that is not carried out, explained. -/
def explain (refusal : CommandLine.Refusal) : IO UInt32 := do
  let lines := if refusal.status = 0 then CommandLine.usage
    else refusal.message :: CommandLine.usage
  for line in lines do
    if refusal.status = 0 then IO.println line else IO.eprintln line
  return refusal.status.toUInt32

/-- A report shown. -/
def present (report : Program.Report) : IO UInt32 := do
  report.lines.forM fun line => IO.println line
  report.ending.error?.forM fun line => IO.eprintln line
  return report.ending.status.toUInt32

end ProxyTrust.Main

/-- The program. -/
def main (arguments : List String) : IO UInt32 := do
  match CommandLine.Invocation.ofArguments (arguments.map CommandLine.argument) with
  | .error refusal => ProxyTrust.Main.explain refusal
  | .ok invocation => ProxyTrust.Main.present (← ProxyTrust.Main.carryOut invocation)
