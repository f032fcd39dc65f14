/-
  The document that describes a configuration.

  The document has a line for each field, in a fixed order: listen, log and platform first, and
  then a table for the authority.  Fields that are absent are left out, also those that would be
  read back as their default.

  A path that is not UTF-8 cannot be written, and then there is no document.  The template is the
  document of the default configuration.
-/
import ProxyTrust.Config.Basic
import ProxyTrust.Text.Utf8
import ProxyTrust.Toml.Printer

namespace ProxyTrust.Config

open Toml (writtenPair)

/-- A line for a path. -/
def pathLine? (key : String) (p : Path) : Option (List Char) :=
  (Text.decodeUtf8? p.bytes).map (writtenPair key)

/-- A line for a path that may be absent. -/
def optionalLine? (key : String) : Option Path → Option (List Char)
  | none => some []
  | some p => pathLine? key p

/-- The document of a configuration. -/
def document? (config : Config) : Option (List Char) := do
  let log ← pathLine? "log_path" config.logPath
  let cert ← pathLine? "cert_path" config.ca.certPath
  let key ← optionalLine? "key_path" config.ca.keyPath
  let installed ← optionalLine? "installed_path" config.ca.installedPath
  let platform := match config.platform with
    | some name => writtenPair "platform" name.toList
    | none => []
  return writtenPair "listen" config.listen.chars ++ log ++ platform ++
    ['\n', '[', 'c', 'a', ']', '\n'] ++ cert ++ key ++ installed

/-- The document of the default configuration. -/
def template : List Char := (document? .default).getD []

example : template =
    ("listen = \"127.0.0.1:8080\"\nlog_path = \"terasu-controller.log\"\n\n" ++
      "[ca]\ncert_path = \"data/ca.pem\"\nkey_path = \"data/ca.key\"\n").toList := by
  decide +kernel

end ProxyTrust.Config
