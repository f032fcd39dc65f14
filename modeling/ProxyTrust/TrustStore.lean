/-
  The trust store of an operating system: the one command that adds a certificate, and the one
  that removes it.

  1. **Quoting** — a path stands in a script in single quotes.  A quote in it ends the quoted
     text, stands escaped, and begins a quoted text again.

  2. **Commands** — Windows and macOS know a certificate by its fingerprint, Linux by the path it
     was copied to.  On Linux the command is a script for the shell: the certificate is copied to
     a place of its own, or removed, and the store is refreshed by a tool.

  3. **Operations** — each runs its one command, and worked if the status was zero.  A removal by
     a fingerprint that is missing, or on a platform without commands, is a fault before any call.
-/
import ProxyTrust.Command.Runner
import ProxyTrust.Text.Utf8

namespace ProxyTrust.TrustStore

/-! ## Quoting -/

/-- How a character stands in a row of single-quoted pieces: a quote closes the piece, comes
    escaped, and opens the next one. -/
def quotedChar (c : Char) : List Char := if c = '\'' then ['\'', '\\', '\'', '\''] else [c]

/-- A text as one word of a script. -/
def quote (s : List Char) : List Char := ['\''] ++ s.flatMap quotedChar ++ ['\'']

/-- A path as one word of a script. -/
def quotePath (p : Path) : String := String.ofList (quote (Text.decodeLossy p.bytes))

/-- The command that runs a script. -/
def shell (script : String) : Command := ⟨"sh", ["-lc", script]⟩

/-! ## Commands -/

/-- Where Linux keeps certificates that were added. -/
def linuxDirectory : String := "/usr/local/share/ca-certificates"

/-- Where the certificate is copied to on Linux. -/
def linuxCertificate : String := "/usr/local/share/ca-certificates/terasu-proxy.crt"

/-- The group that refreshes the store of Linux, if there is a tool for that, and succeeds in any
    case. -/
def linuxRefresh : String :=
  "(command -v update-ca-certificates >/dev/null 2>&1 && update-ca-certificates --fresh || true)"

/-- The keychain of macOS. -/
def macKeychain : String := "/Library/Keychains/System.keychain"

/-- The script that installs a certificate on Linux.  Where there is no tool to refresh the store,
    the copy alone counts. -/
def linuxInstallScript (certificate : Path) : String :=
  "mkdir -p " ++ linuxDirectory ++ " && cp " ++ quotePath certificate ++ " " ++ linuxCertificate ++
    " && " ++ linuxRefresh

/-- The script that removes a certificate on Linux and refreshes the store. -/
def linuxUninstallScript (installed : Path) : String :=
  "rm -f " ++ quotePath installed ++ " && update-ca-certificates"

/-- The command that adds a certificate. -/
def installCommand (platform : Platform) (certificate : Path) : Except Fault Command :=
  match platform with
  | .windows => .ok ⟨"certutil", ["-addstore", "-f", "root", certificate.display]⟩
  | .macos => .ok ⟨"security", ["add-trusted-cert", "-d", "-r", "trustRoot", "-k", macKeychain,
      certificate.display]⟩
  | .linux => .ok (shell (linuxInstallScript certificate))
  | .unsupported => .error (.unsupported .install platform)

/-- The fingerprint, where there has to be one. -/
def requireFingerprint (platform : Platform) : Option Fingerprint → Except Fault Fingerprint
  | some f => .ok f
  | none => .error (.missingFingerprint .uninstall platform)

/-- The path of a certificate in the store of Windows, up to its fingerprint. -/
def windowsStorePath : String := "Remove-Item -Path Cert:\\LocalMachine\\Root\\"

/-- The command that removes a certificate. -/
def uninstallCommand (platform : Platform) (fingerprint : Option Fingerprint)
    (installed : Option Path) : Except Fault Command :=
  match platform with
  | .windows => (requireFingerprint platform fingerprint).map fun f =>
      ⟨"powershell", ["-NoProfile", "-Command", windowsStorePath ++ f.text]⟩
  | .macos => (requireFingerprint platform fingerprint).map fun f =>
      ⟨"security", ["delete-certificate", "-Z", f.text]⟩
  | .linux =>
    .ok (shell (linuxUninstallScript (installed.getD (Path.ofString linuxCertificate))))
  | .unsupported => .error (.unsupported .uninstall platform)

/-! ## Operations -/

variable {σ : Type}

/-- A command run, if it could be built. -/
def runBuilt (run : Runner σ) (built : Except Fault Command) (s : σ) : Except Fault Bool × σ :=
  match built with
  | .error fault => (.error fault, s)
  | .ok command => run.runSucceeded command s

/-- The certificate added; the answer is whether the command exited with zero. -/
def tryInstall (run : Runner σ) (platform : Platform) (certificate : Path) (s : σ) :
    Except Fault Bool × σ :=
  runBuilt run (installCommand platform certificate) s

/-- The certificate removed; the answer is whether the command exited with zero. -/
def tryUninstall (run : Runner σ) (platform : Platform) (fingerprint : Option Fingerprint)
    (installed : Option Path) (s : σ) : Except Fault Bool × σ :=
  runBuilt run (uninstallCommand platform fingerprint installed) s

/-- The certificate added: it worked. -/
def install (run : Runner σ) (platform : Platform) (certificate : Path) (s : σ) : Bool × σ :=
  let (outcome, s) := tryInstall run platform certificate s
  (Runner.settle outcome, s)

/-- The certificate removed: it worked. -/
def uninstall (run : Runner σ) (platform : Platform) (fingerprint : Option Fingerprint)
    (installed : Option Path) (s : σ) : Bool × σ :=
  let (outcome, s) := tryUninstall run platform fingerprint installed s
  (Runner.settle outcome, s)

end ProxyTrust.TrustStore
