/-
  Documents: values, and tables of named values in the order of the document.

  A table remembers how it came about, because that decides what may be added to it later: a table
  that was written with a header or as a value is closed to dotted keys, and one that only lies on
  the way to another may still get a header.

  1. **Going down a path** — `changeAt` makes a change to the table at the end of a path, with the
     tables on the way made where they are missing.

  2. **Sections** — a section is a header with the pairs under it.  It opens a new table, or goes
     on with one that has no header yet, or adds one to a row of tables.
-/
import ProxyTrust.Decimal.Double

namespace ProxyTrust.Toml

/-- How a table came about. -/
inductive TableKind where
  /-- It is the root or has a header. -/
  | headed
  /-- It lies on the way to a table with a header. -/
  | implied
  /-- It lies on the way of a dotted key. -/
  | dotted
  /-- It is a value in braces. -/
  | inline
  deriving Repr, DecidableEq

/-- A value of a document. -/
inductive Node where
  | string (text : String)
  | integer (n : Int)
  | float (x : Double)
  | boolean (b : Bool)
  /-- A date, a time of day or both; which one is not kept. -/
  | dateTime
  | array (items : List Node)
  | table (kind : TableKind) (entries : List (String × Node))
  /-- Tables with the same doubly bracketed header, in order. -/
  | tables (items : List (List (String × Node)))
  deriving Repr, Inhabited

/-- Named values, in order. -/
abbrev Entries := List (String × Node)

namespace Entries

/-- The value of a name. -/
def get? (entries : Entries) (key : String) : Option Node :=
  (entries.find? (·.1 == key)).map (·.2)

/-- The entries with another value for a name that they hold. -/
def replace (entries : Entries) (key : String) (node : Node) : Entries :=
  entries.map fun e => if e.1 == key then (key, node) else e

/-- The entries without a name. -/
def erase (entries : Entries) (key : String) : Entries := entries.filter fun e => e.1 != key

/-- The entries with a new name at the end. -/
def push (entries : Entries) (key : String) (node : Node) : Entries := entries ++ [(key, node)]

end Entries

/-! ## Going down a path -/

/-- A change to one table: its kind and its entries; none if it is refused. -/
abbrev Change := TableKind → Entries → Option Entries

/-- A change at the end of a path below a table.  Missing tables on the way are made, `dotted` or
    implied.  A dotted path passes no table that has a header, and no path enters a table in
    braces; a path enters the last one of several tables of one name. -/
def changeAt (dotted : Bool) (change : Change) (kind : TableKind) (entries : Entries) :
    (path : List String) → Option Entries
  | [] => change kind entries
  | key :: path =>
    match entries.get? key with
    | none =>
      let made := if dotted then TableKind.dotted else .implied
      (changeAt dotted change made [] path).map fun below => entries.push key (.table made below)
    | some (.table .inline _) => none
    | some (.table below inside) =>
      if dotted && below == .headed then none
      else (changeAt dotted change below inside path).map fun inside =>
        entries.replace key (.table below inside)
    | some (.tables items) =>
      match items.getLast? with
      | none => none
      | some last =>
        (changeAt dotted change .headed last path).map fun last =>
          entries.replace key (.tables (items.dropLast ++ [last]))
    | some _ => none

/-- The value of a key, added after a path that may be empty.  A dotted key adds to dotted tables
    only, a plain key to all others, and no key is given twice. -/
def addPair (kind : TableKind) (entries : Entries) (path : List String) (key : String)
    (node : Node) : Option Entries :=
  let add : Change := fun at_ inside =>
    if (at_ == .dotted) == path.isEmpty then none
    else if (inside.get? key).isSome then none
    else some (inside.push key node)
  changeAt true add kind entries path

/-- Pairs added to an empty table in turn. -/
def addPairs (kind : TableKind) (entries : Entries) :
    List (List String × String × Node) → Option Entries
  | [] => some entries
  | (path, key, node) :: rest =>
    match addPair kind entries path key node with
    | some entries => addPairs kind entries rest
    | none => none

/-! ## Sections -/

/-- A header and the pairs under it. -/
structure Section where
  /-- The header has double brackets. -/
  repeated : Bool
  /-- The tables above the named one. -/
  path : List String
  key : String
  pairs : List (List String × String × Node)

/-- A section added to a document.  A table gets one header at most; an implied one that gets its
    header moves to the end. -/
def addSection (root : Entries) (s : Section) : Option Entries :=
  if s.repeated then
    let add : Change := fun _ inside =>
      match inside.get? s.key with
      | none => (addPairs .headed [] s.pairs).map fun t => inside.push s.key (.tables [t])
      | some (.tables items) =>
        (addPairs .headed [] s.pairs).map fun t => inside.replace s.key (.tables (items ++ [t]))
      | some _ => none
    changeAt false add .headed root s.path
  else
    let add : Change := fun _ inside =>
      match inside.get? s.key with
      | none => (addPairs .headed [] s.pairs).map fun t => inside.push s.key (.table .headed t)
      | some (.table .implied below) =>
        (addPairs .headed below s.pairs).map fun t =>
          (inside.erase s.key).push s.key (.table .headed t)
      | some _ => none
    changeAt false add .headed root s.path

/-- Sections added in turn. -/
def addSections (root : Entries) : List Section → Option Entries
  | [] => some root
  | s :: rest =>
    match addSection root s with
    | some root => addSections root rest
    | none => none

end ProxyTrust.Toml
