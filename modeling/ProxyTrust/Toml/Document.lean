/-
  Whole documents.

  1. **Values** — `value` reads a value, with arrays and tables in braces inside it, to a bounded
     depth.

  2. **Statements** — `statements` cuts a text into pairs and headers, one a line, with blank
     lines and comments between them.

  3. **Documents** — `parse?` puts them together: the pairs before the first header belong to the
     document, and every header opens a section.  A document is refused as a whole or read as a
     whole; a name that is given twice refuses it.
-/
import ProxyTrust.Toml.Number

namespace ProxyTrust.Toml

open Text (dropLead?)

/-! ## Between values -/

/-- The text after a comment, if it begins with one; the end of the line stays. -/
def skipComment : List Char → List Char
  | '#' :: rest => rest.dropWhile isPrintable
  | s => s

/-- The text after the end of a line, before which only spaces and a comment stand. -/
def lineEnd (s : List Char) : Option (List Char) :=
  match skipComment (skipSpaces s) with
  | [] => some []
  | rest => newline? rest

/-- The text after spaces, comments and line ends. -/
def skipBlankLines (fuel : Nat) (s : List Char) : List Char :=
  match fuel with
  | 0 => s
  | fuel + 1 =>
    match newline? (skipComment (skipSpaces s)) with
    | some rest => skipBlankLines fuel rest
    | none => skipSpaces s

/-- The text after spaces, comments and line ends. -/
def skipAll (s : List Char) : List Char := skipBlankLines (s.length + 1) s

/-! ## Values -/

/-- Items with commas between them, up to a closing bracket; a comma may stand before it. -/
def items (item : Read Node) (fuel : Nat) (s : List Char) : Option (List Node × List Char) :=
  match fuel with
  | 0 => none
  | fuel + 1 =>
    match skipAll s with
    | ']' :: rest => some ([], rest)
    | s =>
      match item s with
      | none => none
      | some (node, rest) =>
        match skipAll rest with
        | ']' :: rest => some ([node], rest)
        | ',' :: rest => (items item fuel rest).map fun r => (node :: r.1, r.2)
        | _ => none

/-- A key, the sign of equality and a value. -/
def pair (item : Read Node) (s : List Char) :
    Option ((List String × String × Node) × List Char) :=
  match key s with
  | some ((path, last), '=' :: rest) =>
    (item (skipSpaces rest)).map fun r => ((path, last, r.1), r.2)
  | _ => none

/-- Pairs with commas between them, up to a closing brace. -/
def pairs (item : Read Node) (fuel : Nat) (s : List Char) :
    Option (List (List String × String × Node) × List Char) :=
  match fuel with
  | 0 => none
  | fuel + 1 =>
    match pair item s with
    | none => none
    | some (entry, rest) =>
      match skipSpaces rest with
      | '\x7d' :: rest => some ([entry], rest)
      | ',' :: rest => (pairs item fuel rest).map fun r => (entry :: r.1, r.2)
      | _ => none

/-- The inside of a table in braces. -/
def inlineTable (item : Read Node) (s : List Char) : Option (Node × List Char) :=
  match skipSpaces s with
  | '\x7d' :: rest => some (.table .inline [], rest)
  | _ =>
    match pairs item s.length s with
    | none => none
    | some (entries, rest) =>
      (addPairs .inline [] entries).map fun t => (.table .inline t, rest)

/-- A value with at most `depth` arrays and tables around each other. -/
def value (depth : Nat) (s : List Char) : Option (Node × List Char) :=
  match s with
  | [] => none
  | c :: rest =>
    if c == '"' || c == '\'' then (anyString s).map fun r => (.string (String.ofList r.1), r.2)
    else if c == '[' then
      match depth with
      | 0 => none
      | depth + 1 => (items (value depth) (rest.length + 1) rest).map fun r => (.array r.1, r.2)
    else if c == '\x7b' then
      match depth with
      | 0 => none
      | depth + 1 => inlineTable (value depth) rest
    else if c == '+' || c == '-' || Text.isDigit c then number s
    else match dropLead? ['t', 'r', 'u', 'e'] s with
      | some rest => some (.boolean true, rest)
      | none =>
        match dropLead? ['f', 'a', 'l', 's', 'e'] s with
        | some rest => some (.boolean false, rest)
        | none => namedNumber s

/-! ## Statements -/

/-- One line of a document that says something. -/
inductive Statement where
  | pair (path : List String) (key : String) (node : Node)
  | header (repeated : Bool) (path : List String) (key : String)

/-- A header after its opening brackets. -/
def header (repeated : Bool) (s : List Char) : Option (Statement × List Char) := do
  let ((path, last), rest) ← key s
  let rest ← dropLead? (if repeated then [']', ']'] else [']']) rest
  let rest ← lineEnd rest
  return (.header repeated path last, rest)

/-- A statement with the end of its line. -/
def statement (s : List Char) : Option (Statement × List Char) :=
  match s with
  | '[' :: '[' :: rest => header true rest
  | '[' :: rest => header false rest
  | _ => do
    let ((path, key, node), rest) ← pair (value (nestingLimit - 1)) s
    let rest ← lineEnd rest
    return (.pair path key node, rest)

/-- The statements of a text, each of which takes at least one character. -/
def statements (fuel : Nat) (s : List Char) : Option (List Statement) :=
  match skipAll s with
  | [] => some []
  | rest =>
    match fuel with
    | 0 => none
    | fuel + 1 =>
      match skipComment rest with
      | [] => some []
      | _ =>
        match statement rest with
        | none => none
        | some (first, rest) => (statements fuel rest).map (first :: ·)

/-! ## Documents -/

/-- The pairs before the first header, and the sections. -/
def sections : List Statement → List (List String × String × Node) × List Section
  | [] => ([], [])
  | .pair path key node :: rest =>
    let (pairs, later) := sections rest
    ((path, key, node) :: pairs, later)
  | .header repeated path key :: rest =>
    let (pairs, later) := sections rest
    ([], ⟨repeated, path, key, pairs⟩ :: later)

/-- The text without the mark that may stand before it. -/
def skipMark : List Char → List Char
  | '\uFEFF' :: rest => rest
  | s => s

/-- The root table of a document. -/
def parse? (text : List Char) : Option Entries := do
  let all ← statements text.length (skipMark text)
  let (pairs, later) := sections all
  let root ← addPairs .headed [] pairs
  addSections root later

end ProxyTrust.Toml
