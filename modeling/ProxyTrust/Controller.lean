/-
  The controller: authority, trust store and proxy setting under one configuration.

  Every operation takes the file system and the state of the runner and gives them back, so that
  operations follow each other like the calls of a session.

  1. **The authority** — provided where it is missing, and asked for its fingerprint.  The paths
     are those of the configuration.

  2. **The trust store** — an installation provides the authority first and makes no call where
     that fails.  A certificate is removed by the fingerprint given, else by that of the
     configured certificate; on Linux the path it was copied to decides, first the one given, then
     the configured one.

  3. **The proxy setting** — pointed at an endpoint, or taken back.  It needs no file.
-/
import ProxyTrust.Authority.Provision
import ProxyTrust.Config.Basic
import ProxyTrust.SystemProxy
import ProxyTrust.TrustStore

namespace ProxyTrust

/-- A configuration and the platform that the commands are for. -/
structure Controller where
  config : Config
  platform : Platform
  deriving Repr, DecidableEq

namespace Controller

open Authority (Draw EnsureOutcome)

variable {σ : Type}

/-! ## The authority -/

/-- The configured authority, made if it is missing. -/
def ensureCa (c : Controller) (draw : Draw) (now : Moment) (fs : FileSystem) :
    Except Stop EnsureOutcome × FileSystem :=
  Authority.ensureFiles draw now fs c.config.ca.certPath c.config.ca.keyPath

/-- The fingerprint of the configured certificate. -/
def caFingerprint (c : Controller) (fs : FileSystem) : Except Fault Fingerprint :=
  Authority.fingerprintAt fs c.config.ca.certPath

/-! ## The trust store -/

/-- The configured authority made if it is missing, then trusted: that worked. -/
def installCa (c : Controller) (run : Runner σ) (draw : Draw) (now : Moment) (fs : FileSystem)
    (s : σ) : Except Stop Bool × FileSystem × σ :=
  match c.ensureCa draw now fs with
  | (.error stop, fs) => (.error stop, fs, s)
  | (.ok _, fs) =>
    let (ok, s) := TrustStore.install run c.platform c.config.ca.certPath s
    (.ok ok, fs, s)

/-- The fingerprint of the configured certificate, on the platforms that remove by fingerprint. -/
def fingerprintForRemoval (c : Controller) (fs : FileSystem) : Option Fingerprint :=
  match c.platform with
  | .windows | .macos => (c.caFingerprint fs).toOption
  | .linux | .unsupported => none

/-- The certificate removed from the trust store: that worked. -/
def uninstallCa (c : Controller) (run : Runner σ) (fs : FileSystem)
    (fingerprint : Option Fingerprint) (installed : Option Path) (s : σ) : Bool × σ :=
  let fingerprint := fingerprint.or (c.fingerprintForRemoval fs)
  let installed := installed.or c.config.ca.installedPath
  TrustStore.uninstall run c.platform fingerprint installed s

/-! ## The proxy setting -/

/-- The proxy setting pointed at an endpoint: that worked. -/
def enableProxy (c : Controller) (run : Runner σ) (e : Endpoint) (s : σ) : Bool × σ :=
  SystemProxy.enable run c.platform e s

/-- The proxy setting taken back: that worked. -/
def disableProxy (c : Controller) (run : Runner σ) (s : σ) : Bool × σ :=
  SystemProxy.disable run c.platform s

end Controller

end ProxyTrust
