/-
  Invocations: what a command line asks for.

  1. **An argument at a place** — two dashes and a name are a long option, with its value after an
     equals sign or in the next argument; one dash is a row of letters, of which `h` is known; all
     else is the value of the option before it, or astray.
  2. **The row of arguments** — a word leads on to its place; two dashes alone end the options.
  3. **The invocation** — what the leaf that was reached asks for, with the options on the way.
-/
import ProxyTrust.CommandLine.Given
import ProxyTrust.Config.Basic
import ProxyTrust.Text.Search

namespace ProxyTrust.CommandLine

/-! ## An argument at a place -/

/-- A dash. -/
def dash : UInt8 := 0x2D

/-- The sign between the name of an option and its value. -/
def equals : UInt8 := 0x3D

/-- The letter that asks for help. -/
def helpLetter : UInt8 := 0x68

/-- What was read at a place: the options settled, and the last one if it is not settled yet. -/
structure Level where
  given : Given
  /-- An option and the value found for it so far. -/
  pending : Option (Setting × Option Argument)
  deriving Repr, DecidableEq

namespace Level

/-- Nothing was read. -/
def start : Level := ⟨.nothing, none⟩

/-- The next argument may be a value. -/
def isWaiting (level : Level) : Bool :=
  match level.pending with
  | some (_, none) => true
  | _ => false

/-- The options with the last one settled. -/
def settle (level : Level) : Except Refusal Given :=
  match level.pending with
  | none => .ok level.given
  | some (setting, value) => level.given.add setting value

/-- Help asked for, after the last option is settled. -/
def help (level : Level) : Except Refusal Level :=
  match level.settle with
  | .error refusal => .error refusal
  | .ok _ => .error .help

/-- A long option and what follows its equals sign, if it has one. -/
def long (place : Place) (level : Level) (name : Argument) (value : Option Argument) :
    Except Refusal Level :=
  match place.option? name, value with
  | none, _ => .error .unknownArgument
  | some .help, some _ => .error .unwantedValue
  | some .force, some _ => .error .unwantedValue
  | some .help, none => level.help
  | some .force, none => do return ⟨← (← level.settle).addForce, none⟩
  | some (.setting s), some _ => do return ⟨← (← level.settle).add s value, none⟩
  | some (.setting s), none => do return ⟨← level.settle, some (s, none)⟩

/-- A row of letters. -/
def letters (level : Level) (row : Argument) : Except Refusal Level :=
  if row.head? = some helpLetter then level.help else .error .unknownArgument

/-- An argument that is neither word nor option nor value. -/
def astray (place : Place) : Refusal :=
  match place with
  | .group _ => .unknownWord
  | .leaf _ => .unknownArgument

/-- An argument without dashes in front. -/
def plain (place : Place) (level : Level) (a : Argument) : Except Refusal Level :=
  match level.pending with
  | some (setting, none) => .ok { level with pending := some (setting, some a) }
  | _ => .error (astray place)

/-- A long option cut at its first equals sign. -/
def cutValue (row : Argument) : Argument × Option Argument :=
  match Text.cutFirst? [equals] row with
  | some (name, value) => (name, some value)
  | none => (row, none)

/-- One argument that is no word and does not end the options. -/
def read (place : Place) (level : Level) (a : Argument) : Except Refusal Level :=
  match a with
  | [] => level.plain place a
  | [_] => level.plain place a
  | first :: second :: row =>
    if first != dash then level.plain place a
    else if second == dash then
      let (name, value) := cutValue row
      level.long place name value
    else level.letters (second :: row)

end Level

/-! ## The row of arguments -/

/-- The refusal of words after `help`: they have to lead from place to place. -/
def helpOn (place : Place) : List Argument → Refusal
  | [] => .help
  | a :: rest =>
    match place.word? a with
    | some (.enter sub) => helpOn sub rest
    | some .help => if rest.isEmpty then .help else .unknownWord
    | none => .unknownWord

/-- The end of the options: no argument may follow. -/
def afterOptions (place : Place) (level : Level) : List Argument → Except Refusal Level
  | [] => .ok level
  | a :: _ => .error (if (place.word? a).isSome then .unknownArgument else Level.astray place)

/-- The end of the arguments: a leaf has to be reached. -/
def finish (place : Place) (level : Level) : Except Refusal (Leaf × Given) := do
  let given ← level.settle
  match place with
  | .leaf leaf => return (leaf, given)
  | .group _ => .error (if given = .nothing then .helpForWords else .noWord)

/-- The leaf that the arguments lead to from a place, with the options on the way.  What is
    refused at a deeper place is told before the last option of a place is settled. -/
def follow (place : Place) (level : Level) : List Argument → Except Refusal (Leaf × Given)
  | [] => finish place level
  | a :: rest =>
    match if level.isWaiting then none else place.word? a with
    | some .help => .error (helpOn place rest)
    | some (.enter sub) => do
      let (leaf, deep) ← follow sub .start rest
      return (leaf, deep.inside (← level.settle))
    | none =>
      if a = [dash, dash] then do finish place (← afterOptions place level rest)
      else match level.read place a with
        | .error refusal => .error refusal
        | .ok level => follow place level rest

/-! ## The invocation -/

/-- What the program is asked to do under a configuration. -/
inductive Action where
  | ensureCa
  | showCa
  | installCa
  | uninstallCa (fingerprint : Option String) (installed : Option Path)
  | enableProxy (host : Option String) (port : Option Nat)
  | disableProxy
  deriving Repr, DecidableEq

/-- What the program is asked to do. -/
inductive Request where
  /-- Write a configuration file. -/
  | init (force : Bool)
  | act (action : Action)
  deriving Repr, DecidableEq

/-- The request of a leaf. -/
def Leaf.request (leaf : Leaf) (given : Given) : Request :=
  match leaf with
  | .init => .init given.force
  | .ensureCa => .act .ensureCa
  | .showCa => .act .showCa
  | .installCa => .act .installCa
  | .uninstallCa => .act (.uninstallCa given.fingerprint given.installedPath)
  | .enable => .act (.enableProxy given.host given.port)
  | .disable => .act .disableProxy

/-- What a command line asks for. -/
structure Invocation where
  /-- The path of the configuration file. -/
  config : Path
  platform : Option Platform
  request : Request
  deriving Repr, DecidableEq

/-- The path of the configuration file where none is given. -/
def usualConfig : Path := Path.ofString "config.toml"

/-- The invocation of a row of arguments, without the name of the program. -/
def Invocation.ofArguments (args : List Argument) : Except Refusal Invocation := do
  let (leaf, given) ← follow (.group .root) .start args
  return ⟨given.config.getD usualConfig, given.platform, leaf.request given⟩

/-- The endpoint to enable: what is not given comes from the configuration. -/
def chosenEndpoint (config : Config) (host : Option String) (port : Option Nat) :
    Except Endpoint.Fault Endpoint :=
  Endpoint.ofParts (host.getD config.listen.host) (port.getD config.listen.port)

end ProxyTrust.CommandLine
