/-
  Endpoints: the host and port that the proxy listens on.

  An endpoint is made from a host and a port (`ofParts`) or read from one text (`ofText`); `text`
  shows it.

  1. **What is accepted** — what makes an endpoint acceptable is the predicate `Valid`: a host
     that is not empty and holds no character that is barred, and a port other than zero.  Blanks
     around a host are taken off before.

  2. **From one text** — a text is cut at its last colon, one pair of brackets around the host is
     taken off, and then the same checks apply as to a host and a port.  The port is read as a
     number of sixteen bits.

  3. **The text form** — a host with a colon is shown in brackets, unless it begins with one.
-/
import ProxyTrust.Text.Blank
import ProxyTrust.Text.Numeral
import ProxyTrust.Text.Search

namespace ProxyTrust

/-- Where a proxy listens, and where the system proxy points. -/
structure Endpoint where
  host : String
  port : Nat
  deriving Repr, DecidableEq

namespace Endpoint

/-! ## What is accepted -/

/-- A character that no host holds. -/
def isBarred (c : Char) : Bool := Text.isBlank c || c == '\'' || c == '"'

/-- A host that is not empty, without blanks and quotes, and a port from 1 to 65535. -/
def Valid (e : Endpoint) : Prop :=
  e.host ≠ "" ∧ (∀ c ∈ e.host.toList, isBarred c = false) ∧ 1 ≤ e.port ∧ e.port ≤ 65535

/-! ## Faults -/

/-- Why an endpoint is refused. -/
inductive Fault where
  /-- The text has no colon. -/
  | noColon (text : String)
  /-- What follows the last colon is no port number. -/
  | badPort (port text : String)
  | emptyHost
  /-- The trimmed host holds a blank or a quote. -/
  | barredHost (host : String)
  | zeroPort
  deriving Repr, DecidableEq

/-- The wording of a fault. -/
def Fault.message : Fault → String
  | noColon text => s!"'{text}' must be HOST:PORT"
  | badPort port text => s!"invalid port '{port}' in '{text}'"
  | emptyHost => "proxy host cannot be empty"
  | barredHost host => s!"proxy host '{host}' contains invalid characters"
  | zeroPort => "proxy port must be between 1 and 65535"

/-! ## From a host and a port -/

/-- The endpoint of a host, trimmed, and a port. -/
def ofChars (host : List Char) (port : Nat) : Except Fault Endpoint :=
  let trimmed := Text.trim host
  if trimmed.isEmpty then .error .emptyHost
  else if trimmed.any isBarred then .error (.barredHost (String.ofList trimmed))
  else if port = 0 then .error .zeroPort
  else .ok ⟨String.ofList trimmed, port⟩

/-- The endpoint of a host, trimmed, and a port. -/
def ofParts (host : String) (port : Nat) : Except Fault Endpoint := ofChars host.toList port

/-! ## From one text -/

/-- The host without one pair of brackets around it. -/
def unbracket (host : List Char) : List Char :=
  match host with
  | '[' :: rest => if rest.getLast? = some ']' then rest.dropLast else host
  | _ => host

/-- The endpoint that a text names. -/
def ofText (text : String) : Except Fault Endpoint :=
  match Text.cutLast? ':' (Text.trim text.toList) with
  | none => .error (.noColon text)
  | some (host, port) =>
    match Text.readUnsigned? 65535 port with
    | none => .error (.badPort (String.ofList port) text)
    | some n => ofChars (unbracket host) n

/-! ## The text form -/

/-- The host holds a colon and does not begin with a bracket, so that it needs a pair of them. -/
def needsBrackets (host : List Char) : Bool := host.contains ':' && host.head? != some '['

/-- The characters of the text form. -/
def chars (e : Endpoint) : List Char :=
  let host := e.host.toList
  (if needsBrackets host then ['['] ++ host ++ [']'] else host) ++ [':'] ++ Text.decimal e.port

/-- The text form, `host:port` or `[host]:port`. -/
def text (e : Endpoint) : String := String.ofList e.chars

end Endpoint

end ProxyTrust
