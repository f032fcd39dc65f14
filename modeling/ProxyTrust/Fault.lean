/-
  Faults of the library: why an operation on the authority, the trust store or the proxy failed.

  1. **Faults** — a fault names its cause; `Fault.message` is the one place that words it.  A
     program that ran and ended with another status than zero is not a fault.  One that was
     interrupted is told apart from one that did not start.

  2. **Crashes** — where the program stops without an error of its own, that is a `Crash`: dates
     that leave the calendar, a year that a certificate cannot tell, a log file that cannot be
     opened.  An operation that may crash ends in a `Stop`, which is either of the two.
-/
import ProxyTrust.Files.IoError
import ProxyTrust.Files.Path
import ProxyTrust.Fingerprint
import ProxyTrust.Pem.Block
import ProxyTrust.Pem.Sections
import ProxyTrust.Platform
import ProxyTrust.X509.Certificate

namespace ProxyTrust

/-! ## Operations -/

/-- The operations that need the commands of an operating system. -/
inductive Operation where
  | proxyEnable | proxyDisable | install | uninstall
  deriving Repr, DecidableEq

/-- The name of an operation in messages. -/
def Operation.name : Operation → String
  | proxyEnable => "system proxy enable"
  | proxyDisable => "system proxy disable"
  | install => "CA install"
  | uninstall => "CA uninstall"

/-! ## Certificates and keys -/

/-- What is wrong with a certificate, a key or a text that should spell one. -/
inductive CryptoCause where
  | notFingerprint (text : String)
  | block (fault : Pem.BlockFault)
  /-- The certificate file cannot be read. -/
  | unreadable (path : Path) (source : IoError)
  /-- The certificate file is no file of sections. -/
  | sections (path : Path) (fault : Pem.SectionsFault)
  | noCertificate (path : Path)
  /-- The first certificate section holds something else. -/
  | notCertificate (path : Path) (fault : X509.Fault)
  deriving Repr, DecidableEq

/-- The wording of a cause, up to the place where the certificate is wrong. -/
def CryptoCause.summary : CryptoCause → String
  | notFingerprint text => Fingerprint.malformedMessage text
  | block fault => fault.message
  | unreadable path source =>
    let (file, reason) := (path.display, source.message)
    s!"failed to read {file}: {reason}"
  | sections path fault =>
    let (file, reason) := (path.display, fault.message)
    s!"failed to parse PEM certs from {file}: {reason}"
  | noCertificate path =>
    let file := path.display
    s!"no certificates found in {file}"
  | notCertificate path _ =>
    let file := path.display
    s!"{file} is not a valid certificate"

/-- The wording of a cause. -/
def CryptoCause.message : CryptoCause → String
  | notCertificate path fault =>
    let (start, reason) := ((notCertificate path fault).summary, fault.message)
    s!"{start}: {reason}"
  | cause => cause.summary

/-! ## Faults -/

/-- Why an operation failed. -/
inductive Fault where
  | crypto (cause : CryptoCause)
  | filesystem (path : Path) (source : IoError)
  /-- The program could not be started. -/
  | externalTool (program : String) (source : IoError)
  | unsupported (operation : Operation) (platform : Platform)
  | missingFingerprint (operation : Operation) (platform : Platform)
  /-- The wait for the program was cancelled. -/
  | cancelled (program : String)
  deriving Repr, DecidableEq

namespace Fault

/-- The wording of a fault, with the given wording of the cause of a crypto fault. -/
def messageBy (cause : CryptoCause → String) : Fault → String
  | crypto c =>
    let reason := cause c
    s!"crypto error: {reason}"
  | filesystem path source =>
    let (file, reason) := (path.display, source.message)
    s!"filesystem error at {file}: {reason}"
  | externalTool program source =>
    let reason := source.message
    s!"could not start `{program}`: {reason}"
  | unsupported operation platform =>
    let (what, system) := (operation.name, platform.name)
    s!"{what} is not supported on platform '{system}'"
  | missingFingerprint operation platform =>
    let (what, system) := (operation.name, platform.name)
    s!"{what} on {system} requires a certificate fingerprint"
  | cancelled program => s!"`{program}` was cancelled before it finished"

/-- The wording of a fault. -/
def message (fault : Fault) : String := fault.messageBy CryptoCause.message

/-- The wording of a fault without what is wrong inside a certificate. -/
def summary (fault : Fault) : String := fault.messageBy CryptoCause.summary

/-- The fault of a program that did not run to its end: an interruption means that the wait for it
    was cancelled. -/
def ofRun (program : String) (source : IoError) : Fault :=
  if source.kind = .interrupted then .cancelled program else .externalTool program source

end Fault

/-! ## Crashes -/

/-- Why the program stops without an error of its own. -/
inductive Crash where
  /-- Calendar arithmetic leaves the range of years. -/
  | dateRange
  /-- A year that the chosen time form of a certificate cannot write. -/
  | timeForm
  /-- The log file cannot be opened. -/
  | logFile (path : Path) (source : IoError)
  deriving Repr, DecidableEq

/-- Why an operation ends without a result. -/
inductive Stop where
  | fault (fault : Fault)
  | crash (crash : Crash)
  deriving Repr, DecidableEq

end ProxyTrust
