/-
  Listings: everything below a directory, each entry described in a word.

  A file is described by what it begins with or by its name; one that still holds the bytes that
  were put there is unchanged, whatever they are.  So the description of a file that was generated
  at random is known in advance.

  A private key is described with the permission bits of its file, since these are what protects
  it.
-/
import ProxyTrust.Files.FileSystem
import ProxyTrust.Pem.Block

namespace ProxyTrust

/-- What an entry is. -/
inductive Description where
  | directory
  | link
  | unchanged
  | certificate
  /-- A private key in a file with these permission bits. -/
  | privateKey (mode : Nat)
  | log
  | text (content : String)
  deriving Repr, DecidableEq

namespace Description

/-- The bytes that a block of a label begins with. -/
def opening (label : String) : List UInt8 :=
  Text.encodeUtf8 (Pem.beginMarker label.toList ++ ['\n'])

/-- The end of the names of log files. -/
def logEnding : List UInt8 := [0x2E, 0x6C, 0x6F, 0x67]

/-- What a file with this name and content is. -/
def ofFile (name : Name) (content : List UInt8) (mode : Nat) : Description :=
  if (opening Pem.certificateLabel).isPrefixOf content then .certificate
  else if (opening Pem.rsaPrivateKeyLabel).isPrefixOf content then .privateKey mode
  else if logEnding.isSuffixOf name then .log
  else .text (String.ofList (Text.decodeLossy content))

/-- What an entry is, where `given` was put. -/
def ofEntry (given : Option (List UInt8)) (name : Name) : Entry → Description
  | .directory => .directory
  | .link _ => .link
  | .file content mode => if given = some content then .unchanged else ofFile name content mode

end Description

namespace FileSystem

/-- The names from one location down to another below it. -/
def namesBelow? (above place : Location) : Option (List Name) :=
  if above.length < place.length && place.drop (place.length - above.length) == above then
    some (place.take (place.length - above.length)).reverse
  else none

/-- Every entry below a location, with the names on the way. -/
def below (fs : FileSystem) (above : Location) : List (List Name × Entry) :=
  fs.entries.filterMap fun e => (namesBelow? above e.1).map fun names => (names, e.2)

end FileSystem

end ProxyTrust
