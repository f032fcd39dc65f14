/-
  The proxy setting of an operating system: the commands that point it at an endpoint, and those
  that take it back.

  1. **Commands** — Windows has one setting; macOS has two for each network service, and a fixed
     list of services is set; the desktop of Linux has a mode and a host and a port for each of
     two schemes.  Values for the desktop are literals of its own format.

  2. **Operations** — all commands are run even where one of them exits with another status than
     zero, and the operation worked if all exited with zero.  One that cannot be started ends the
     row.  An operation on a platform without commands is a failure without a call.
-/
import ProxyTrust.Command.Runner
import ProxyTrust.Endpoint

namespace ProxyTrust.SystemProxy

/-! ## Commands -/

/-- The network services of macOS whose settings are changed. -/
def macServices : List String := ["Wi-Fi", "Ethernet"]

/-- The settings of the desktop: the proxy in general and for the two schemes. -/
def desktopProxy : String := "org.gnome.system.proxy"

/-- The setting for plain requests. -/
def desktopHttp : String := "org.gnome.system.proxy.http"

/-- The setting for encrypted requests. -/
def desktopHttps : String := "org.gnome.system.proxy.https"

/-- The command that sets one key of a schema. -/
def setKey (schema key value : String) : Command := ⟨"gsettings", ["set", schema, key, value]⟩

/-- The commands that point the setting at an endpoint. -/
def enableCommands (platform : Platform) (e : Endpoint) : Except Fault (List Command) :=
  let host := e.host
  let port := String.ofList (Text.decimal e.port)
  match platform with
  | .windows => .ok [⟨"netsh", ["winhttp", "set", "proxy", e.text]⟩]
  | .macos => .ok (macServices.flatMap fun service =>
      [⟨"networksetup", ["-setwebproxy", service, host, port]⟩,
        ⟨"networksetup", ["-setsecurewebproxy", service, host, port]⟩])
  | .linux =>
    let quoted := "'" ++ host ++ "'"
    .ok [setKey desktopProxy "mode" "'manual'", setKey desktopHttp "host" quoted,
      setKey desktopHttp "port" port, setKey desktopHttps "host" quoted,
      setKey desktopHttps "port" port]
  | .unsupported => .error (.unsupported .proxyEnable platform)

/-- The commands that take the setting back. -/
def disableCommands (platform : Platform) : Except Fault (List Command) :=
  match platform with
  | .windows => .ok [⟨"netsh", ["winhttp", "reset", "proxy"]⟩]
  | .macos => .ok (macServices.flatMap fun service =>
      [⟨"networksetup", ["-setwebproxystate", service, "off"]⟩,
        ⟨"networksetup", ["-setsecurewebproxystate", service, "off"]⟩])
  | .linux => .ok [setKey desktopProxy "mode" "'none'"]
  | .unsupported => .error (.unsupported .proxyDisable platform)

/-! ## Operations -/

variable {σ : Type}

/-- Commands run in turn, if they could be built. -/
def runBuilt (run : Runner σ) (built : Except Fault (List Command)) (s : σ) :
    Except Fault Bool × σ :=
  match built with
  | .error fault => (.error fault, s)
  | .ok commands => run.runAll commands s

/-- The setting pointed at an endpoint; the answer is whether all commands exited with zero. -/
def tryEnable (run : Runner σ) (platform : Platform) (e : Endpoint) (s : σ) :
    Except Fault Bool × σ :=
  runBuilt run (enableCommands platform e) s

/-- The setting taken back; the answer is whether all commands exited with zero. -/
def tryDisable (run : Runner σ) (platform : Platform) (s : σ) : Except Fault Bool × σ :=
  runBuilt run (disableCommands platform) s

/-- The setting pointed at an endpoint: it worked. -/
def enable (run : Runner σ) (platform : Platform) (e : Endpoint) (s : σ) : Bool × σ :=
  let (outcome, s) := tryEnable run platform e s
  (Runner.settle outcome, s)

/-- The setting taken back: it worked. -/
def disable (run : Runner σ) (platform : Platform) (s : σ) : Bool × σ :=
  let (outcome, s) := tryDisable run platform s
  (Runner.settle outcome, s)

end ProxyTrust.SystemProxy
