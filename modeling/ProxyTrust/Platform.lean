/-
  The operating systems whose trust store and proxy settings the program knows how to change.

  A platform is named on the command line or in the configuration; `ofText?` reads every spelling
  in use, in either case and with blanks around it, and the error tells the ones that are meant.

  A platform without commands can be named too.  Its operations fail before any program is called.
-/
import ProxyTrust.Text.Blank

namespace ProxyTrust

/-- The family of operating systems that the commands are for. -/
inductive Platform where
  | windows | macos | linux | unsupported
  deriving Repr, DecidableEq

namespace Platform

/-- The name in messages. -/
def name : Platform → String
  | windows => "windows"
  | macos => "macos"
  | linux => "linux"
  | unsupported => "unsupported"

/-- The platform has commands. -/
def isSupported (p : Platform) : Bool := p != unsupported

/-- The platform this program is built for. -/
def current : Platform := linux

/-- An ASCII upper-case letter in lower case; every other character unchanged. -/
def lowerAscii (c : Char) : Char := if 'A' ≤ c && c ≤ 'Z' then Char.ofNat (c.toNat + 32) else c

/-- A name as it is compared: trimmed and in ASCII lower case. -/
def normalName (text : String) : String := String.ofList ((Text.trim text.toList).map lowerAscii)

/-- The spellings of each platform. -/
def spellings : List (String × Platform) :=
  [("windows", windows), ("win", windows), ("macos", macos), ("mac", macos), ("darwin", macos),
    ("osx", macos), ("linux", linux), ("unsupported", unsupported)]

/-- The platform that a text names. -/
def ofText? (text : String) : Option Platform :=
  (spellings.find? (·.1 == normalName text)).map (·.2)

/-- The message for a text that names none. -/
def unknownMessage (text : String) : String :=
  let given := normalName text
  s!"unknown platform '{given}', expected windows|macos|linux|unsupported"

end Platform

end ProxyTrust
