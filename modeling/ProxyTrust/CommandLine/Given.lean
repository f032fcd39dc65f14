/-
  The values given at one place of the command line.

  An option may be given once at a place.  Its value is checked when the option is settled, not
  when it is read, so that a later argument that is unknown is told first.

  Options that are known everywhere may be given at every place on the way; the value at the
  deepest place counts.  A port is read as a number with a sign and then has to be one of 16 bits,
  a platform is one of its spellings, and a path may be any bytes but none at all.
-/
import ProxyTrust.CommandLine.Basic
import ProxyTrust.Text.Numeral

namespace ProxyTrust.CommandLine

/-- The options given at a place. -/
structure Given where
  config : Option Path
  platform : Option Platform
  fingerprint : Option String
  installedPath : Option Path
  host : Option String
  port : Option Nat
  force : Bool
  deriving Repr, DecidableEq

namespace Given

/-- No option. -/
def nothing : Given := ⟨none, none, none, none, none, none, false⟩

/-- An option is given. -/
def has (given : Given) : Setting → Bool
  | .config => given.config.isSome
  | .platform => given.platform.isSome
  | .fingerprint => given.fingerprint.isSome
  | .installedPath => given.installedPath.isSome
  | .host => given.host.isSome
  | .port => given.port.isSome

/-! ## Values -/

/-- A path: any bytes but none at all. -/
def readPath (value : Argument) : Except Refusal Path :=
  if value = [] then .error .noValue else .ok ⟨value⟩

/-- A text. -/
def readText (value : Argument) : Except Refusal (List Char) :=
  match Text.decodeUtf8? value with
  | some text => .ok text
  | none => .error .notUtf8

/-- The name of a platform. -/
def readPlatform (value : Argument) : Except Refusal Platform := do
  match Platform.ofText? (String.ofList (← readText value)) with
  | some p => .ok p
  | none => .error .badValue

/-- The largest number that is read before the range of ports is looked at. -/
def numberBound : Nat := 9223372036854775807

/-- A port, from 0 to 65535. -/
def readPort (value : Argument) : Except Refusal Nat := do
  match Text.readSigned? numberBound (← readText value) with
  | some n => if 0 ≤ n && n ≤ 65535 then .ok n.toNat else .error .badValue
  | none => .error .badValue

/-- An option set to the value that an argument spells. -/
def set (given : Given) (setting : Setting) (value : Argument) : Except Refusal Given :=
  match setting with
  | .config => (readPath value).map fun p => { given with config := some p }
  | .platform => (readPlatform value).map fun p => { given with platform := some p }
  | .fingerprint =>
    (readText value).map fun s => { given with fingerprint := some (String.ofList s) }
  | .installedPath => (readPath value).map fun p => { given with installedPath := some p }
  | .host => (readText value).map fun s => { given with host := some (String.ofList s) }
  | .port => (readPort value).map fun n => { given with port := some n }

/-- One more option, with the value that was found for it. -/
def add (given : Given) (setting : Setting) (value : Option Argument) : Except Refusal Given :=
  match value with
  | none => .error .noValue
  | some value => if given.has setting then .error .repeated else given.set setting value

/-- One more flag. -/
def addForce (given : Given) : Except Refusal Given :=
  if given.force then .error .repeated else .ok { given with force := true }

/-- The options of a place and those of the places before it: the deeper place decides. -/
def inside (deep outer : Given) : Given where
  config := deep.config.or outer.config
  platform := deep.platform.or outer.platform
  fingerprint := deep.fingerprint.or outer.fingerprint
  installedPath := deep.installedPath.or outer.installedPath
  host := deep.host.or outer.host
  port := deep.port.or outer.port
  force := deep.force || outer.force

end Given

end ProxyTrust.CommandLine
