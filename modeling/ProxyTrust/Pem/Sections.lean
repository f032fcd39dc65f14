/-
  Files of armoured sections, read line by line.

  A file may hold several sections between lines of anything else.

  1. **Lines** — a line ends at a line feed or a carriage return.  Spaces and line ends after it
     are not collected.

  2. **Markers** — a line that begins with the BEGIN marker opens a section, and the END marker of
     the same label closes it.  Opening a section inside another one changes the label and keeps
     what was collected.

  3. **Reading** — the lines between are collected and read as base64 where padding may be left
     out.  The whole file is read, so that a fault anywhere makes it unreadable, and a section
     that is open at the end is one.
-/
import ProxyTrust.Base64.Decoding
import ProxyTrust.Text.Quoted
import ProxyTrust.Text.Search
import ProxyTrust.Text.Utf8

namespace ProxyTrust.Pem

open Text (dropLead?)

/-! ## Lines -/

/-- A byte that ends a line: a line feed or a carriage return. -/
def endsLine (b : UInt8) : Bool := b == 0x0A || b == 0x0D

/-- The lines of a file, each with the byte that ends it; the last may have none. -/
def splitLines : List UInt8 → List (List UInt8)
  | [] => []
  | b :: rest =>
    if endsLine b then [b] :: splitLines rest
    else match splitLines rest with
      | line :: others => (b :: line) :: others
      | [] => [[b]]

/-! ## Markers -/

/-- What a line that opens a section begins with. -/
def beginLead : List UInt8 := Text.encodeUtf8 "-----BEGIN ".toList

/-- What a line that closes a section begins with, before the label. -/
def endLead : List UInt8 := Text.encodeUtf8 "-----END ".toList

/-- The dash. -/
def dash : UInt8 := 0x2D

/-- A byte that may stand among and after the dashes at the end of an opening line. -/
def isTrailing (b : UInt8) : Bool := endsLine b || b == 0x20 || b == dash

/-- The END marker of a label. -/
def sectionEnd (label : List UInt8) : List UInt8 := endLead ++ label ++ List.replicate 5 dash

/-- The label of an opening line: what lies before the first of the exactly five dashes among the
    bytes that trail it. -/
def openingLabel? (line : List UInt8) : Option (List UInt8) :=
  let back := line.reverse
  let trail := back.takeWhile isTrailing
  if trail.count dash = 5 then
    let kept := (trail.reverse.dropWhile (· != dash)).length
    some ((line.take (line.length - kept)).drop beginLead.length)
  else none

/-! ## Faults -/

/-- Why a file of sections cannot be read. -/
inductive SectionsFault where
  /-- An opening line without its five dashes. -/
  | illegalStart (line : List UInt8)
  /-- The file ends inside a section. -/
  | missingEnd (marker : List UInt8)
  /-- What a section holds is not base64. -/
  | base64 (fault : Base64.Fault)
  deriving Repr, DecidableEq

/-- Bytes as a quoted text. -/
def quotedBytes (bytes : List UInt8) : String :=
  String.ofList (Text.quoted (Text.decodeLossy bytes))

/-- The wording of a fault. -/
def SectionsFault.message : SectionsFault → String
  | illegalStart line =>
    let shown := quotedBytes line
    s!"illegal section start: {shown}"
  | missingEnd marker =>
    let shown := quotedBytes marker
    s!"section end {shown} missing"
  | base64 fault => Base64.Lenient.message fault

/-! ## Reading -/

/-- One section: its label and its bytes. -/
structure Section where
  label : List UInt8
  data : List UInt8
  deriving Repr, DecidableEq

/-- Where the reader stands between two lines. -/
structure Reader where
  /-- The label of the open section. -/
  inside : Option (List UInt8)
  /-- The base64 text collected. -/
  collected : List UInt8
  deriving Repr, DecidableEq

/-- The reader at the start of a file. -/
def Reader.start : Reader := ⟨none, []⟩

/-- A line without the line ends and spaces after it. -/
def trimmedLine (line : List UInt8) : List UInt8 :=
  (line.reverse.dropWhile fun b => endsLine b || b == 0x20).reverse

/-- One line: the reader after it, and the section it closes. -/
def Reader.line (r : Reader) (line : List UInt8) : Except SectionsFault (Reader × Option Section) :=
  if (dropLead? beginLead line).isSome then
    match openingLabel? line with
    | some label => .ok ({ r with inside := some label }, none)
    | none => .error (.illegalStart line)
  else match r.inside with
    | none => .ok (r, none)
    | some label =>
      if (dropLead? (sectionEnd label) line).isSome then
        match Base64.Lenient.decode r.collected with
        | .ok data => .ok (.start, some ⟨label, data⟩)
        | .error fault => .error (.base64 fault)
      else .ok ({ r with collected := r.collected ++ trimmedLine line }, none)

/-- The sections of the lines. -/
def Reader.run (r : Reader) : List (List UInt8) → Except SectionsFault (List Section)
  | [] =>
    match r.inside with
    | some label => .error (.missingEnd (sectionEnd label))
    | none => .ok []
  | line :: rest =>
    match r.line line with
    | .error fault => .error fault
    | .ok (next, closed) => (next.run rest).map (closed.toList ++ ·)

/-- All sections of a file, in order. -/
def sections (file : List UInt8) : Except SectionsFault (List Section) :=
  Reader.start.run (splitLines file)

/-- The bytes of the sections of a label, in order. -/
def sectionsOf (label : String) (file : List UInt8) : Except SectionsFault (List (List UInt8)) :=
  (sections file).map fun all =>
    (all.filter (·.label == Text.encodeUtf8 label.toList)).map (·.data)

end ProxyTrust.Pem
