/-
  Paths: rows of bytes between slashes.

  A path is any row of bytes, with no encoding.  `components` are the names between its slashes,
  in which several slashes count as one.

  `parent?` and `fileName?` are what a path says about the directory above and the name in it,
  without looking at any file: dots and slashes at the end count for nothing, two dots are a name
  but no file's, and the root has no parent.

  A path that is not UTF-8 is shown with replacement characters, so that two paths may be shown
  alike.
-/
import ProxyTrust.Text.Utf8

namespace ProxyTrust

/-- A path as the operating system takes it. -/
structure Path where
  bytes : List UInt8
  deriving Repr, DecidableEq

namespace Path

/-- The slash. -/
def separator : UInt8 := 0x2F

/-- The path of a text. -/
def ofString (s : String) : Path := ⟨Text.encodeUtf8 s.toList⟩

/-- The path for the reader of a message or of a command. -/
def display (p : Path) : String := String.ofList (Text.decodeLossy p.bytes)

/-- The path begins at the root. -/
def isAbsolute (p : Path) : Bool := p.bytes.head? == some separator

/-- The path holds a byte that no path may hold. -/
def hasNul (p : Path) : Bool := p.bytes.contains 0

/-- The rows of bytes between slashes. -/
def splitSlashes (bytes : List UInt8) : List (List UInt8) :=
  bytes.foldr (fun b rows =>
    if b = separator then [] :: rows
    else match rows with
      | row :: rest => (b :: row) :: rest
      | [] => [[b]]) [[]]

/-- The names between the slashes, in order; `.` and `..` stay. -/
def components (bytes : List UInt8) : List (List UInt8) :=
  (splitSlashes bytes).filter (! ·.isEmpty)

/-- A slash follows the last name. -/
def endsInSlash (bytes : List UInt8) : Bool :=
  bytes.getLast? == some separator && !(components bytes).isEmpty

/-- The name of the directory that holds it. -/
def dot : List UInt8 := [0x2E]

/-- The name of the directory above. -/
def dotDot : List UInt8 := [0x2E, 0x2E]

/-! ## The text of a path, without the files -/

/-- How a path begins. -/
inductive Start where
  /-- At the root, with a slash. -/
  | root
  /-- At the working directory, with a `.` of its own. -/
  | here
  /-- At its first name. -/
  | name
  deriving Repr, DecidableEq

/-- The start of a path and the rows between the slashes after it. -/
def body (bytes : List UInt8) : Start × List (List UInt8) :=
  match splitSlashes bytes with
  | first :: rest =>
    if first = dot then (.here, rest)
    else if first.isEmpty && bytes.head? == some separator then (.root, rest)
    else (.name, first :: rest)
  | [] => (.name, [])

/-- The rows with slashes between them. -/
def joinRows : List (List UInt8) → List UInt8
  | [] => []
  | [row] => row
  | row :: rest => row ++ [separator] ++ joinRows rest

/-- A start and the rows after it, as one path. -/
def ofBody (start : Start) (rows : List (List UInt8)) : Path :=
  match start with
  | .root => ⟨separator :: joinRows rows⟩
  | .here => ⟨joinRows (dot :: rows)⟩
  | .name => ⟨joinRows rows⟩

/-- A row that names nothing: an empty one, or a `.`. -/
def isIdle (row : List UInt8) : Bool := row.isEmpty || row == dot

/-- The rows of the path, last name first. -/
def rowsBack (bytes : List UInt8) : List (List UInt8) := (body bytes).2.reverse.dropWhile isIdle

/-- The path of the directory above, as far as the text tells: none for the root and the empty path,
    the empty path for a single name. -/
def parent? (p : Path) : Option Path :=
  let start := (body p.bytes).1
  match rowsBack p.bytes with
  | _ :: above => some (ofBody start (above.dropWhile isIdle).reverse)
  | [] => if start = .here then some ⟨[]⟩ else none

/-- The name of the file in the directory above; none if the path ends in `..` or names only a
    start. -/
def fileName? (p : Path) : Option (List UInt8) :=
  match rowsBack p.bytes with
  | row :: _ => if row = dotDot then none else some row
  | [] => none

example : (ofString "a//b/./c").parent? = some (ofString "a//b") := by decide
example : (ofString "./x").parent? = some (ofString ".") := by decide
example : (ofString "x/").parent? = some (ofString "") := by decide
example : (ofString "//x").parent? = some (ofString "/") := by decide
example : (ofString "x/..").fileName? = none := by decide

end Path

end ProxyTrust
