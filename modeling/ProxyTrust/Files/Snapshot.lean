/-
  Snapshots: the few entries of a file system that a run may touch, and what the run changed.

  The entries that matter for a path are those at the locations on its way, where `.` stays and
  `..` goes up.  They are read before a run, which is then computed on them.

  What a run changed are the entries that are new or different.  Directories come before what is
  in them, so that the changes can be carried out in this order.
-/
import ProxyTrust.Files.FileSystem

namespace ProxyTrust

namespace Location

/-- The location after a name, where `.` stays and `..` goes up. -/
def step (place : Location) (name : Name) : Location :=
  if name = Path.dot then place else if name = Path.dotDot then place.tail else name :: place

/-- The locations on the way of a path, from the first name to the last. -/
def onPath (place : Location) : List Name → List Location
  | [] => []
  | name :: rest => step place name :: onPath (step place name) rest

/-- The absolute path of a location. -/
def path (place : Location) : Path :=
  ⟨place.reverse.flatMap fun name => Path.separator :: name⟩

end Location

namespace FileSystem

/-- The locations on the way of a path. -/
def placesOf (fs : FileSystem) (p : Path) : List Location :=
  Location.onPath (fs.startOf p) (Path.components p.bytes)

/-- The entries that are new or different, directories before what is in them. -/
def changes (before after : FileSystem) : List (Location × Entry) :=
  let changed := after.entries.filter fun e => before.at? e.1 != some e.2
  changed.mergeSort fun a b => a.1.length ≤ b.1.length

end FileSystem

end ProxyTrust
