/-
  File systems: a tree of files, directories and links, and how paths are looked up in it.

  1. **Places** — a location is the row of names from an entry up to the root; the tree is a list
     of locations with their entries.  Nothing is assumed about the list: that every entry stands
     in a directory is a property of its own.

  2. **Looking up** — a path is walked name by name from the root or from the working directory.
     Links on the way are followed, forty at most, and every name before the last has to be a
     directory.  A walk may end at a free name in a directory, which is where something new would
     go.

  3. **Operations** — reading, writing and making directories, with the error numbers that they
     end with.  A directory that cannot be made is forgiven where one is there already, and an
     operation that fails leaves the files as they are, but for directories that were made on the
     way.
-/
import ProxyTrust.Files.IoError
import ProxyTrust.Files.Path

namespace ProxyTrust

/-! ## Places -/

/-- A name in a directory. -/
abbrev Name := List UInt8

/-- The names from an entry up to the root, which is the empty row. -/
abbrev Location := List Name

/-- What stands at a location. -/
inductive Entry where
  /-- A file with its permission bits. -/
  | file (content : List UInt8) (mode : Nat)
  | directory
  | link (target : Path)
  deriving Repr, DecidableEq

/-- A tree of entries.  The root is always a directory. -/
structure FileSystem where
  entries : List (Location × Entry)
  /-- The working directory. -/
  home : Location
  /-- The permission bits that new files do not get. -/
  umask : Nat
  deriving Repr, DecidableEq

namespace FileSystem

/-- The entry at a location. -/
def at? (fs : FileSystem) (place : Location) : Option Entry :=
  if place = [] then some .directory else (fs.entries.find? (·.1 == place)).map (·.2)

/-- The file system with an entry at a location, in the place of the one that was there. -/
def put (fs : FileSystem) (place : Location) (entry : Entry) : FileSystem :=
  { fs with entries := (place, entry) :: fs.entries.filter fun e => e.1 != place }

/-- A directory stands at the location. -/
def isDirectoryAt (fs : FileSystem) (place : Location) : Bool := fs.at? place == some .directory

/-! ## Looking up -/

/-- Where a walk ends. -/
inductive Spot where
  /-- At an entry; `slash` if the path says that it is a directory. -/
  | there (place : Location) (slash : Bool)
  /-- In a directory, at a name that it does not hold. -/
  | absent (parent : Location) (name : Name) (slash : Bool)
  deriving Repr, DecidableEq

/-- The longest name. -/
def nameLimit : Nat := 255

/-- The longest path, with the byte after its end. -/
def pathLimit : Nat := 4096

/-- The most links on one walk. -/
def linkLimit : Nat := 40

/-- What is wanted of the last name of a walk. -/
inductive Last where
  /-- The entry that it leads to, over a link as well. -/
  | target
  /-- The entry of that name, even if it is a link. -/
  | itself
  /-- As `target`, for a file that may have to be made: no slash may follow the name. -/
  | made
  deriving Repr, DecidableEq

/-- How a walk goes on: from a directory, over names, `slash` if a slash follows the last. -/
abbrev Walk := Location → List Name → Bool → Except IoError Spot

/-- A walk from `here` over the names.  A link is handed to `expand` with the names after it. -/
def walkNames (fs : FileSystem) (last : Last) (slash : Bool) (expand : Walk) (here : Location) :
    List Name → Except IoError Spot
  | [] => .ok (.there here slash)
  | name :: rest =>
    if !fs.isDirectoryAt here then .error .notDirectory
    else if name = Path.dot then walkNames fs last slash expand here rest
    else if name = Path.dotDot then walkNames fs last slash expand here.tail rest
    else if rest = [] && slash && last = .made then .error .isDirectory
    else if nameLimit < name.length then .error .nameTooLong
    else match fs.at? (name :: here) with
      | none => if rest = [] then .ok (.absent here name slash) else .error .noEntry
      | some (.link target) =>
        if rest = [] && last = .itself then .ok (.there (name :: here) slash)
        else
          let start := if target.isAbsolute then [] else here
          let after := if rest = [] then slash || Path.endsInSlash target.bytes else slash
          expand start (Path.components target.bytes ++ rest) after
      | some _ => walkNames fs last slash expand (name :: here) rest

/-- A walk that may go over `links` links. -/
def walk (fs : FileSystem) (last : Last) : (links : Nat) → Walk
  | 0 => fun here names slash => walkNames fs last slash (fun _ _ _ => .error .linkLoop) here names
  | links + 1 => fun here names slash => walkNames fs last slash (walk fs last links) here names

/-- The check of a path before any walk. -/
def checkPath (p : Path) : Except IoError Unit :=
  if p.hasNul then .error .nulInPath
  else if p.bytes = [] then .error .noEntry
  else if pathLimit ≤ p.bytes.length then .error .nameTooLong
  else .ok ()

/-- Where the walk over a path begins. -/
def startOf (fs : FileSystem) (p : Path) : Location := if p.isAbsolute then [] else fs.home

/-- Where a path leads. -/
def lookUpFor (fs : FileSystem) (last : Last) (p : Path) : Except IoError Spot :=
  match checkPath p with
  | .error e => .error e
  | .ok () =>
    fs.walk last linkLimit (fs.startOf p) (Path.components p.bytes) (Path.endsInSlash p.bytes)

/-- Where a path leads, over a link in the last place as well. -/
def lookUp (fs : FileSystem) (p : Path) : Except IoError Spot := fs.lookUpFor .target p

/-- Where a path leads, to the link itself in the last place. -/
def lookUpSelf (fs : FileSystem) (p : Path) : Except IoError Spot := fs.lookUpFor .itself p

/-- The location of the entry that a path leads to. -/
def find (fs : FileSystem) (p : Path) : Except IoError Location :=
  match fs.lookUp p with
  | .error e => .error e
  | .ok (.absent ..) => .error .noEntry
  | .ok (.there place slash) =>
    if slash && !fs.isDirectoryAt place then .error .notDirectory else .ok place

/-- A path leads to something. -/
def pathExists (fs : FileSystem) (p : Path) : Bool := (fs.find p).toOption.isSome

/-- A path leads to a directory. -/
def isDirectory (fs : FileSystem) (p : Path) : Bool :=
  match fs.find p with
  | .ok place => fs.isDirectoryAt place
  | .error _ => false

/-! ## Reading and writing -/

/-- The bytes of the file that a path leads to. -/
def read (fs : FileSystem) (p : Path) : Except IoError (List UInt8) :=
  match fs.find p with
  | .error e => .error e
  | .ok place =>
    match fs.at? place with
    | some (.file content _) => .ok content
    | some .directory => .error .isDirectory
    | _ => .error .noEntry

/-- Where a file to be written is or will be. -/
def placeToWrite (fs : FileSystem) (p : Path) : Except IoError Location :=
  match fs.lookUpFor .made p with
  | .error e => .error e
  | .ok (.absent parent name _) => .ok (name :: parent)
  | .ok (.there place _) => if fs.isDirectoryAt place then .error .isDirectory else .ok place

/-- The file system with these bytes in a file.  A file that is there keeps its permission bits, a
    new one gets those of `mode` that the mask leaves. -/
def putFile (fs : FileSystem) (place : Location) (content : List UInt8) (mode : Nat) : FileSystem :=
  match fs.at? place with
  | some (.file _ kept) => fs.put place (.file content kept)
  | _ => fs.put place (.file content (mode &&& (0o777 ^^^ (fs.umask &&& 0o777))))

/-- The permission bits asked for where nothing is said. -/
def plainMode : Nat := 0o666

/-- Bytes written to the file that a path leads to, which is made if it is missing. -/
def write (fs : FileSystem) (p : Path) (content : List UInt8) (mode : Nat) :
    Except IoError FileSystem :=
  match fs.placeToWrite p with
  | .error e => .error e
  | .ok place => .ok (fs.putFile place content mode)

/-! ## Directories -/

/-- A new directory.  Whatever is there already, even a link that leads nowhere, is in the way. -/
def makeDirectory (fs : FileSystem) (p : Path) : Except IoError FileSystem :=
  match checkPath p with
  | .error e => .error e
  | .ok () =>
    let names := Path.components p.bytes
    match names.getLast? with
    | none => .error .exists_
    | some last =>
      if last = Path.dot || last = Path.dotDot then
        match fs.walk .target linkLimit (fs.startOf p) (names.dropLast ++ [Path.dot]) false with
        | .error e => .error e
        | .ok _ => .error .exists_
      else match fs.lookUpSelf p with
        | .error e => .error e
        | .ok (.there ..) => .error .exists_
        | .ok (.absent parent name _) => .ok (fs.put (name :: parent) .directory)

/-- A path and the paths of the directories above it, as far as the text tells, `fuel` of them. -/
def upwards (fuel : Nat) (p : Path) : List Path :=
  match fuel with
  | 0 => []
  | fuel + 1 =>
    p :: match p.parent? with
      | some above => upwards fuel above
      | none => []

/-- The directory of the first path, after those of the later ones that are missing.  A failure is
    forgiven where the path leads to a directory; what was made stays. -/
def makeChain (fs : FileSystem) : List Path → Except IoError Unit × FileSystem
  | [] => (.error (.custom .uncategorized "failed to create whole tree"), fs)
  | p :: above =>
    if p.bytes = [] then (.ok (), fs)
    else match fs.makeDirectory p with
      | .ok made => (.ok (), made)
      | .error e =>
        if e.kind = .notFound then
          match makeChain fs above with
          | (.error e, fs) => (.error e, fs)
          | (.ok (), fs) =>
            match fs.makeDirectory p with
            | .ok made => (.ok (), made)
            | .error e => (if fs.isDirectory p then .ok () else .error e, fs)
        else (if fs.isDirectory p then .ok () else .error e, fs)

/-- A directory and all missing ones above it. -/
def makeDirectories (fs : FileSystem) (p : Path) : Except IoError Unit × FileSystem :=
  fs.makeChain (upwards (p.bytes.length + 1) p)

/-! ## Links and removal -/

/-- A new link. -/
def makeLink (fs : FileSystem) (p target : Path) : Except IoError FileSystem :=
  match fs.lookUpSelf p with
  | .error e => .error e
  | .ok (.there ..) => .error .exists_
  | .ok (.absent parent name _) => .ok (fs.put (name :: parent) (.link target))

/-- A file or a link taken away. -/
def remove (fs : FileSystem) (p : Path) : Except IoError FileSystem :=
  match fs.lookUpSelf p with
  | .error e => .error e
  | .ok (.absent ..) => .error .noEntry
  | .ok (.there place _) =>
    if fs.isDirectoryAt place then .error .isDirectory
    else .ok { fs with entries := fs.entries.filter fun e => e.1 != place }

/-- A file system with the root and the working directory alone. -/
def withHome (home : Location) : FileSystem :=
  ⟨(List.range home.length).map fun n => (home.drop n, .directory), home, 0o022⟩

end FileSystem

end ProxyTrust
