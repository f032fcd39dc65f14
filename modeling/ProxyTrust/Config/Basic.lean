/-
  The configuration: where the proxy listens, where the files of the authority are, and which
  platform the commands are for.

  Every field has a default of its own, so that an empty document is a configuration.  The path of
  the key has one as well, so that a configuration without it cannot be told by a document.

  The platform may be named on the command line, which wins, or in the configuration.  A name in
  the configuration is kept as it is and only read when the platform is settled.
-/
import ProxyTrust.Endpoint
import ProxyTrust.Files.Path
import ProxyTrust.Platform

namespace ProxyTrust

/-- The part of the configuration about the certificate authority. -/
structure CaConfig where
  certPath : Path
  /-- Where the private key goes; it is written only if this is given. -/
  keyPath : Option Path
  /-- On Linux, where the certificate was copied when it was installed. -/
  installedPath : Option Path
  deriving Repr, DecidableEq

/-- The configuration of the program. -/
structure Config where
  listen : Endpoint
  logPath : Path
  /-- The name of a platform to use instead of the current one. -/
  platform : Option String
  ca : CaConfig
  deriving Repr, DecidableEq

/-- The authority's part of an empty document. -/
def CaConfig.default : CaConfig :=
  ⟨Path.ofString "data/ca.pem", some (Path.ofString "data/ca.key"), none⟩

namespace Config

/-- The configuration of an empty document. -/
def default : Config :=
  ⟨⟨"127.0.0.1", 8080⟩, Path.ofString "terasu-controller.log", none, .default⟩

/-- The platform to use: the one named on the command line, else the one in the configuration,
    else the current one.  The error is the name in the configuration that names none. -/
def resolvePlatform (named : Option Platform) (config : Config) : Except String Platform :=
  match named, config.platform with
  | some p, _ => .ok p
  | none, none => .ok Platform.current
  | none, some name =>
    match Platform.ofText? name with
    | some p => .ok p
    | none => .error name

end Config

end ProxyTrust
