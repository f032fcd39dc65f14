/-
  The command line: its words, its options, and what it can be refused for.

  1. **The tree of words** — groups and leaves.  A group is followed by the word of one of its
     members or by `help`; a leaf is followed by options alone.

  2. **Options** — two options are known everywhere, the others at one leaf.  An option takes a
     value or is a flag.

  3. **Refusals** — a command line that cannot be used is refused with a kind, by which the exit
     status is told.  Asking for help is such a refusal too, with status zero.

  4. **What the user is told** — the usage in one line per leaf, and the wording of a refusal.
-/
import ProxyTrust.Files.Path
import ProxyTrust.Platform

namespace ProxyTrust.CommandLine

/-- An argument as the operating system hands it over. -/
abbrev Argument := List UInt8

/-- The argument that a text is. -/
def argument (text : String) : Argument := Text.encodeUtf8 text.toList

/-! ## The tree of words -/

/-- What is done at the end of a row of words. -/
inductive Leaf where
  | init | ensureCa | showCa | installCa | uninstallCa | enable | disable
  deriving Repr, DecidableEq

/-- Where further words follow. -/
inductive Group where
  | root | proxy
  deriving Repr, DecidableEq

/-- How far the words have led. -/
inductive Place where
  | group (group : Group)
  | leaf (leaf : Leaf)
  deriving Repr, DecidableEq

/-- The words that lead on from a place. -/
def Place.members : Place → List (String × Place)
  | .group .root =>
    [("init", .leaf .init), ("ensure-ca", .leaf .ensureCa), ("show-ca", .leaf .showCa),
      ("install-ca", .leaf .installCa), ("uninstall-ca", .leaf .uninstallCa),
      ("proxy", .group .proxy)]
  | .group .proxy => [("enable", .leaf .enable), ("disable", .leaf .disable)]
  | .leaf _ => []

/-- What a word says. -/
inductive Word where
  | enter (place : Place)
  | help
  deriving Repr, DecidableEq

/-- The words known at a place: its members and, at a group, `help`. -/
def Place.words (place : Place) : List (String × Word) :=
  match place with
  | .leaf _ => []
  | .group _ => place.members.map (fun m => (m.1, .enter m.2)) ++ [("help", .help)]

/-- The word that an argument is at a place. -/
def Place.word? (place : Place) (a : Argument) : Option Word :=
  (place.words.find? fun w => argument w.1 == a).map (·.2)

/-! ## Options -/

/-- The options that take a value. -/
inductive Setting where
  | config | platform | fingerprint | installedPath | host | port
  deriving Repr, DecidableEq

/-- What a long option asks for. -/
inductive LongOption where
  | help
  | force
  | setting (setting : Setting)
  deriving Repr, DecidableEq

/-- The options known everywhere. -/
def commonOptions : List (String × LongOption) :=
  [("help", .help), ("config", .setting .config), ("platform", .setting .platform)]

/-- The options of one place. -/
def Place.ownOptions : Place → List (String × LongOption)
  | .leaf .init => [("force", .force)]
  | .leaf .uninstallCa =>
    [("fingerprint", .setting .fingerprint), ("installed-path", .setting .installedPath)]
  | .leaf .enable => [("host", .setting .host), ("port", .setting .port)]
  | _ => []

/-- The option of a name at a place. -/
def Place.option? (place : Place) (name : Argument) : Option LongOption :=
  ((commonOptions ++ place.ownOptions).find? fun o => argument o.1 == name).map (·.2)

/-! ## Refusals -/

/-- Why a command line is not carried out. -/
inductive Refusal where
  /-- The user asks for help. -/
  | help
  /-- Words have to follow, and nothing else is given either. -/
  | helpForWords
  /-- Words have to follow. -/
  | noWord
  | unknownWord
  | unknownArgument
  /-- An option is given twice at one place. -/
  | repeated
  /-- An option that takes no value is given one. -/
  | unwantedValue
  /-- An option has no value, or an empty path. -/
  | noValue
  /-- A value is no platform or no port. -/
  | badValue
  /-- A value that is a text is not UTF-8. -/
  | notUtf8
  deriving Repr, DecidableEq

/-- The exit status: asking for help is no failure. -/
def Refusal.status : Refusal → Nat
  | help => 0
  | _ => 2

/-! ## What the user is told -/

/-- The words and options in short. -/
def usage : List String :=
  ["usage: [--config PATH] [--platform NAME] COMMAND", "",
    "  init [--force]                                          write a configuration file",
    "  ensure-ca                                               make the CA if it is missing",
    "  show-ca                                                 show the CA certificate",
    "  install-ca                                              trust the CA",
    "  uninstall-ca [--fingerprint TEXT] [--installed-path PATH]  stop trusting the CA",
    "  proxy enable [--host NAME] [--port NUMBER]              set the system proxy",
    "  proxy disable                                           take the system proxy back"]

/-- The wording of a refusal. -/
def Refusal.message : Refusal → String
  | help => ""
  | helpForWords => "a command is expected"
  | noWord => "a command is expected"
  | unknownWord => "there is no such command"
  | unknownArgument => "there is no such argument"
  | repeated => "an option is given twice"
  | unwantedValue => "an option takes no value"
  | noValue => "an option has no value"
  | badValue => "the value of an option cannot be used"
  | notUtf8 => "the value of an option is not UTF-8"

end ProxyTrust.CommandLine
