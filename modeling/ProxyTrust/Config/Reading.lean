/-
  The configuration that a document describes.

  1. **Faults** — a value of the wrong type is described together with what was wanted; the fault
     of an endpoint is told in its own words.

  2. **Fields** — the entries are taken in the order of the document and each sets its field, so
     that the first entry with a fault decides the message.  Names that mean nothing are passed
     over, whatever their value is.

  3. **The authority** — its part is a table, or a list of its fields in a fixed order.  A date
     counts as a table of names that mean nothing.

  A text that is no document is told from a document that describes no configuration.
-/
import ProxyTrust.Config.Basic
import ProxyTrust.Text.Quoted
import ProxyTrust.Toml.Document

namespace ProxyTrust

open Toml (Node Entries)

namespace Config

/-! ## Faults -/

/-- What a field has to be. -/
inductive Wanted where
  | string | path | ca
  deriving Repr, DecidableEq

/-- The wording of what is wanted. -/
def Wanted.text : Wanted → String
  | string => "a string"
  | path => "path string"
  | ca => "struct CaConfig"

/-- Why a document does not describe a configuration. -/
inductive DataFault where
  /-- A value of another type, described, than the one wanted. -/
  | wrongType (found : String) (wanted : Wanted)
  | endpoint (fault : Endpoint.Fault)
  deriving Repr, DecidableEq

/-- The wording of a fault. -/
def DataFault.message : DataFault → String
  | wrongType found wanted =>
    let expected := wanted.text
    s!"invalid type: {found}, expected {expected}"
  | endpoint fault => fault.message

/-- A value in messages. -/
def describe : Node → String
  | .string text => "string " ++ String.ofList (Text.quoted text.toList)
  | .integer n => "integer `" ++ toString n ++ "`"
  | .float x => "floating point `" ++ String.ofList x.text ++ "`"
  | .boolean b => if b then "boolean `true`" else "boolean `false`"
  | .dateTime => "map"
  | .table _ _ => "map"
  | .array _ => "sequence"
  | .tables _ => "sequence"

/-! ## Fields -/

/-- A string. -/
def readString : Node → Except DataFault String
  | .string text => .ok text
  | node => .error (.wrongType (describe node) .string)

/-- A path. -/
def readPath : Node → Except DataFault Path
  | .string text => .ok (Path.ofString text)
  | node => .error (.wrongType (describe node) .path)

/-- An endpoint. -/
def readEndpoint (node : Node) : Except DataFault Endpoint :=
  match readString node with
  | .error fault => .error fault
  | .ok text =>
    match Endpoint.ofText text with
    | .ok e => .ok e
    | .error fault => .error (.endpoint fault)

/-- One entry of the authority's table. -/
def setCa (ca : CaConfig) (key : String) (node : Node) : Except DataFault CaConfig :=
  if key = "cert_path" then (readPath node).map fun p => { ca with certPath := p }
  else if key = "key_path" then (readPath node).map fun p => { ca with keyPath := some p }
  else if key = "installed_path" then (readPath node).map fun p =>
    { ca with installedPath := some p }
  else .ok ca

/-- The entries of the authority's table, in turn. -/
def setCaAll (ca : CaConfig) : Entries → Except DataFault CaConfig
  | [] => .ok ca
  | (key, node) :: rest =>
    match setCa ca key node with
    | .ok ca => setCaAll ca rest
    | .error fault => .error fault

/-- The names of the authority's fields, in the order in which a list gives them. -/
def caKeys : List String := ["cert_path", "key_path", "installed_path"]

/-- The authority's part, from a table or from a list of its fields; a date is a table of names that
    mean nothing. -/
def readCa : Node → Except DataFault CaConfig
  | .table _ entries => setCaAll .default entries
  | .array items => setCaAll .default (caKeys.zip items)
  | .tables items => setCaAll .default (caKeys.zip (items.map (Node.table .headed)))
  | .dateTime => .ok .default
  | node => .error (.wrongType (describe node) .ca)

/-- One entry of a document. -/
def set (config : Config) (key : String) (node : Node) : Except DataFault Config :=
  if key = "listen" then (readEndpoint node).map fun e => { config with listen := e }
  else if key = "log_path" then (readPath node).map fun p => { config with logPath := p }
  else if key = "platform" then (readString node).map fun s => { config with platform := some s }
  else if key = "ca" then (readCa node).map fun ca => { config with ca }
  else .ok config

/-- The entries of a document, in turn. -/
def setAll (config : Config) : Entries → Except DataFault Config
  | [] => .ok config
  | (key, node) :: rest =>
    match set config key node with
    | .ok config => setAll config rest
    | .error fault => .error fault

/-- Why a text is no configuration. -/
inductive TextFault where
  /-- The text is no document. -/
  | notDocument
  | data (fault : DataFault)
  deriving Repr, DecidableEq

/-- The configuration that a text describes. -/
def ofText (text : List Char) : Except TextFault Config :=
  match Toml.parse? text with
  | none => .error .notDocument
  | some entries =>
    match setAll .default entries with
    | .ok config => .ok config
    | .error fault => .error (.data fault)

end Config

end ProxyTrust
