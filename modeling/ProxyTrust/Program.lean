/-
  The program: from the arguments to an exit status and the lines that it prints.

  1. **How a run ends** — with a refusal of its arguments, a failure, a crash or a success.  Each
     has its status, and a failure has a line for the error output.

  2. **Actions** — one for each leaf of the command line.  What an action reports are lines and an
     ending; once a program was started the run succeeds, and its last line tells how the
     operation went.

  3. **The program** — a configuration file is written on its own.  Every other request reads the
     configuration, opens the log, settles the platform and then acts, in this order, and the
     first failure ends the run before any program is started.
-/
import ProxyTrust.CommandLine.Invocation
import ProxyTrust.Config.File
import ProxyTrust.Controller
import ProxyTrust.Logging

namespace ProxyTrust.Program

open Authority (Draw)
open CommandLine (Action Invocation Refusal Request chosenEndpoint)

/-! ## How a run ends -/

/-- Why a run fails. -/
inductive Failure where
  | config (fault : Config.FileFault)
  | logDirectory (path : Path) (source : IoError)
  /-- The configuration names a platform that there is not. -/
  | platform (name : String)
  /-- The authority cannot be made. -/
  | provision (fault : Fault)
  | fault (fault : Fault)
  | endpoint (fault : Endpoint.Fault)
  deriving Repr, DecidableEq

/-- The wording of a failure, without its cause. -/
def Failure.message : Failure → String
  | config f => f.message
  | logDirectory path _ => Logging.noDirectoryMessage path
  | platform name => Platform.unknownMessage name
  | provision _ => "failed to provision CA"
  | fault f => f.message
  | endpoint f => f.message

/-- How a run ends. -/
inductive Ending where
  | success
  | refused (refusal : Refusal)
  | failure (failure : Failure)
  | crash (crash : Crash)
  deriving Repr, DecidableEq

/-- The exit status. -/
def Ending.status : Ending → Nat
  | success => 0
  | refused refusal => refusal.status
  | failure _ => 1
  | crash _ => 101

/-- The error told to the user. -/
def Ending.error? : Ending → Option String
  | failure f => some ("Error: " ++ f.message)
  | _ => none

/-- What a run shows: the lines of its output, and how it ends. -/
structure Report where
  lines : List String
  ending : Ending
  deriving Repr, DecidableEq

namespace Report

/-- A run that prints lines and succeeds. -/
def said (lines : List String) : Report := ⟨lines, .success⟩

/-- A run that fails and prints nothing. -/
def failed (failure : Failure) : Report := ⟨[], .failure failure⟩

/-- A run in which the authority was not made. -/
def unprovisioned : Stop → Report
  | .fault fault => failed (.provision fault)
  | .crash crash => ⟨[], .crash crash⟩

/-- A run that tells whether an operation worked. -/
def told (ok : Bool) (success failure : String) : Report := said [if ok then success else failure]

end Report

/-! ## Actions -/

variable {σ : Type}

/-- The lines about an authority that is there now. -/
def provisioned (cert : Path) : Authority.EnsureOutcome → String
  | .generated => "Generated " ++ cert.display
  | .alreadyPresent => cert.display ++ " already present"

/-- The lines that show an authority. -/
def shown (cert : Path) (fingerprint : Fingerprint) : List String :=
  ["cert: " ++ cert.display, "fingerprint: " ++ fingerprint.text]

/-- The authority made if it is missing. -/
def ensureCa (draw : Draw) (now : Moment) (c : Controller) (fs : FileSystem) :
    Report × FileSystem :=
  match c.ensureCa draw now fs with
  | (.error stop, fs) => (.unprovisioned stop, fs)
  | (.ok outcome, fs) => (.said [provisioned c.config.ca.certPath outcome], fs)

/-- The authority made if it is missing, and shown. -/
def showCa (draw : Draw) (now : Moment) (c : Controller) (fs : FileSystem) : Report × FileSystem :=
  match c.ensureCa draw now fs with
  | (.error stop, fs) => (.unprovisioned stop, fs)
  | (.ok _, fs) =>
    match c.caFingerprint fs with
    | .error fault => (.failed (.fault fault), fs)
    | .ok fingerprint => (.said (shown c.config.ca.certPath fingerprint), fs)

/-- The authority trusted. -/
def installCa (run : Runner σ) (draw : Draw) (now : Moment) (c : Controller)
    (fs : FileSystem) (s : σ) : Report × FileSystem × σ :=
  match c.installCa run draw now fs s with
  | (.error stop, fs, s) => (.unprovisioned stop, fs, s)
  | (.ok ok, fs, s) => (.told ok "ca installed" "ca install failed", fs, s)

/-- The fingerprint that an option spells, if it is given. -/
def givenFingerprint : Option String → Except Fault (Option Fingerprint)
  | none => .ok none
  | some text =>
    match Fingerprint.ofText? text with
    | some f => .ok (some f)
    | none => .error (.crypto (.notFingerprint text))

/-- The authority no longer trusted. -/
def uninstallCa (run : Runner σ) (c : Controller) (fs : FileSystem) (fingerprint : Option String)
    (installed : Option Path) (s : σ) : Report × σ :=
  match givenFingerprint fingerprint with
  | .error fault => (.failed (.fault fault), s)
  | .ok fingerprint =>
    let (ok, s) := c.uninstallCa run fs fingerprint installed s
    (.told ok "ca uninstalled" "ca uninstall failed", s)

/-- The proxy setting pointed at an endpoint. -/
def enableProxy (run : Runner σ) (c : Controller) (host : Option String)
    (port : Option Nat) (s : σ) : Report × σ :=
  match chosenEndpoint c.config host port with
  | .error fault => (.failed (.endpoint fault), s)
  | .ok e =>
    let (ok, s) := c.enableProxy run e s
    (.told ok "system proxy enabled" "system proxy enable failed", s)

/-- The proxy setting taken back. -/
def disableProxy (run : Runner σ) (c : Controller) (s : σ) : Report × σ :=
  let (ok, s) := c.disableProxy run s
  (.told ok "system proxy disabled" "system proxy disable failed", s)

/-- An action of a controller. -/
def act (run : Runner σ) (draw : Draw) (now : Moment) (c : Controller) (action : Action)
    (fs : FileSystem) (s : σ) : Report × FileSystem × σ :=
  match action with
  | .ensureCa =>
    let (report, fs) := ensureCa draw now c fs
    (report, fs, s)
  | .showCa =>
    let (report, fs) := showCa draw now c fs
    (report, fs, s)
  | .installCa => installCa run draw now c fs s
  | .uninstallCa fingerprint installed =>
    let (report, s) := uninstallCa run c fs fingerprint installed s
    (report, fs, s)
  | .enableProxy host port =>
    let (report, s) := enableProxy run c host port s
    (report, fs, s)
  | .disableProxy =>
    let (report, s) := disableProxy run c s
    (report, fs, s)

/-! ## The program -/

/-- A configuration file written. -/
def init (path : Path) (force : Bool) (fs : FileSystem) : Report × FileSystem :=
  match Config.init fs path force with
  | (.error fault, fs) => (.failed (.config fault), fs)
  | (.ok (), fs) => (.said ["Wrote " ++ path.display], fs)

/-- What comes before an action: the configuration, the log and the platform. -/
def prepare (path : Path) (named : Option Platform) (fs : FileSystem) :
    Except Report Controller × FileSystem :=
  match Config.load fs path with
  | .error fault => (.error (.failed (.config fault)), fs)
  | .ok config =>
    match Logging.start fs config.logPath with
    | (.error (.noDirectory path source), fs) => (.error (.failed (.logDirectory path source)), fs)
    | (.error (.crash crash), fs) => (.error ⟨[], .crash crash⟩, fs)
    | (.ok (), fs) =>
      match Config.resolvePlatform named config with
      | .error name => (.error (.failed (.platform name)), fs)
      | .ok platform => (.ok ⟨config, platform⟩, fs)

/-- An invocation carried out. -/
def carryOut (run : Runner σ) (draw : Draw) (now : Moment) (invocation : Invocation)
    (fs : FileSystem) (s : σ) : Report × FileSystem × σ :=
  match invocation.request with
  | .init force =>
    let (report, fs) := init invocation.config force fs
    (report, fs, s)
  | .act action =>
    match prepare invocation.config invocation.platform fs with
    | (.error report, fs) => (report, fs, s)
    | (.ok c, fs) => act run draw now c action fs s

/-- The program run on its arguments. -/
def run (tools : Runner σ) (draw : Draw) (now : Moment) (args : List CommandLine.Argument)
    (fs : FileSystem) (s : σ) : Report × FileSystem × σ :=
  match Invocation.ofArguments args with
  | .error refusal => (⟨[], .refused refusal⟩, fs, s)
  | .ok invocation => carryOut tools draw now invocation fs s

end ProxyTrust.Program
