/-
  Strings and keys of documents.

  1. **Strings** — there are four kinds: in double quotes with escapes, in single quotes without,
     and both in triple quotes over several lines.  Every reader takes the text from its opening
     quote and gives the string and the text after the closing quote.

  2. **Escapes** — short ones, code points in four or eight digits, and in a text of several lines
     a backslash at the end of a line, which joins it with what follows.

  3. **Keys** — bare or quoted parts with dots between them, of which the last one is the name and
     the others lead to its table.  Their number is bounded as the nesting of values is.
-/
import ProxyTrust.Text.Numeral
import ProxyTrust.Text.Search

namespace ProxyTrust.Toml

/-- A reader of a part of a text: a value and the text after it. -/
abbrev Read (α : Type) := List Char → Option (α × List Char)

open Text (dropLead?)

/-! ## Characters -/

/-- A space or a tab. -/
def isSpace (c : Char) : Bool := c == ' ' || c == '\t'

/-- A character that a line may hold: all but the controls, with the tab. -/
def isPrintable (c : Char) : Bool := c == '\t' || (0x20 ≤ c.toNat && c.toNat != 0x7F)

/-- The text without the spaces before it. -/
def skipSpaces (s : List Char) : List Char := s.dropWhile isSpace

/-- The text after the end of a line. -/
def newline? : List Char → Option (List Char)
  | '\n' :: rest => some rest
  | '\r' :: '\n' :: rest => some rest
  | _ => none

/-- A hexadecimal digit of either case. -/
def hexValue? (c : Char) : Option Nat :=
  if '0' ≤ c && c ≤ '9' then some (c.toNat - '0'.toNat)
  else if 'a' ≤ c && c ≤ 'f' then some (c.toNat - 'a'.toNat + 10)
  else if 'A' ≤ c && c ≤ 'F' then some (c.toNat - 'A'.toNat + 10)
  else none

/-! ## Escapes -/

/-- The character of a code point, unless it is a surrogate or too large. -/
def charOf? (n : Nat) : Option Char :=
  if n < 0xD800 || (0xDFFF < n && n < 0x110000) then some (Char.ofNat n) else none

/-- The code point in exactly `count` hexadecimal digits. -/
def codePoint (count : Nat) (s : List Char) : Option (Char × List Char) :=
  if s.length < count then none
  else do
    let digits ← (s.take count).mapM hexValue?
    let c ← charOf? (digits.foldl (· * 16 + ·) 0)
    return (c, s.drop count)

/-- The characters of the short escapes. -/
def shortEscapes : List (Char × Char) :=
  [('b', '\x08'), ('t', '\t'), ('n', '\n'), ('f', '\x0c'), ('r', '\r'), ('"', '"'), ('\\', '\\')]

/-- An escape, after its backslash. -/
def escape : Read Char
  | 'u' :: rest => codePoint 4 rest
  | 'U' :: rest => codePoint 8 rest
  | c :: rest => (shortEscapes.find? (·.1 == c)).map fun e => (e.2, rest)
  | [] => none

/-! ## One line -/

/-- The rest of a string in double quotes.  Every step takes a character, so `fuel` as long as the
    text is enough. -/
def basicRest (fuel : Nat) (s : List Char) : Option (List Char × List Char) :=
  match fuel, s with
  | _ + 1, '"' :: rest => some ([], rest)
  | fuel + 1, '\\' :: rest =>
    match escape rest with
    | some (c, rest) => (basicRest fuel rest).map fun r => (c :: r.1, r.2)
    | none => none
  | fuel + 1, c :: rest =>
    if isPrintable c then (basicRest fuel rest).map fun r => (c :: r.1, r.2) else none
  | _, _ => none

/-- The rest of a string in single quotes. -/
def literalRest : List Char → Option (List Char × List Char)
  | [] => none
  | c :: rest =>
    if c = '\'' then some ([], rest)
    else if isPrintable c then (literalRest rest).map fun r => (c :: r.1, r.2) else none

/-- A string in one line, from its quote. -/
def lineString : Read (List Char)
  | '"' :: rest => basicRest rest.length rest
  | '\'' :: rest => literalRest rest
  | _ => none

/-! ## Several lines -/

/-- A text without the line end it may begin with. -/
def skipNewline (s : List Char) : List Char := (newline? s).getD s

/-- The quotes of a closing row of `count`, three or more: those that belong to the string and those
    that are left.  At most two belong to it. -/
def closingQuotes (quote : Char) (count : Nat) : List Char × List Char :=
  (List.replicate (min (count - 3) 2) quote, List.replicate (count - 5) quote)

/-- The text after the spaces and line ends that follow an escaped line end; there must be a line
    end. -/
def skipLines (s : List Char) : Option (List Char) :=
  (newline? (skipSpaces s)).map fun rest => go rest.length rest
where
  /-- The text without spaces and line ends before it. -/
  go (fuel : Nat) (s : List Char) : List Char :=
    match fuel with
    | 0 => s
    | fuel + 1 =>
      match newline? (skipSpaces s) with
      | some rest => go fuel rest
      | none => skipSpaces s

/-- The rest of a string in triple quotes.  With `escapes`, a backslash begins an escape, or takes
    away a line end and the blanks after it. -/
def linesRest (quote : Char) (escapes : Bool) (fuel : Nat) (s : List Char) :
    Option (List Char × List Char) :=
  match fuel with
  | 0 => none
  | fuel + 1 =>
    match s with
    | [] => none
    | c :: rest =>
      if c = quote then
        let count := (s.takeWhile (· == quote)).length
        if 3 ≤ count then
          let (kept, left) := closingQuotes quote count
          some (kept, left ++ s.drop count)
        else (linesRest quote escapes fuel rest).map fun r => (c :: r.1, r.2)
      else if escapes && c == '\\' then
        match skipLines rest with
        | some rest => linesRest quote escapes fuel rest
        | none =>
          match escape rest with
          | some (c, rest) => (linesRest quote escapes fuel rest).map fun r => (c :: r.1, r.2)
          | none => none
      else match newline? s with
        | some rest => (linesRest quote escapes fuel rest).map fun r => ('\n' :: r.1, r.2)
        | none =>
          if isPrintable c then (linesRest quote escapes fuel rest).map fun r => (c :: r.1, r.2)
          else none

/-- A string of any kind, from its quotes. -/
def anyString (s : List Char) : Option (List Char × List Char) :=
  match s with
  | '"' :: '"' :: '"' :: rest => linesRest '"' true (rest.length + 1) (skipNewline rest)
  | '\'' :: '\'' :: '\'' :: rest => linesRest '\'' false (rest.length + 1) (skipNewline rest)
  | _ => lineString s

/-! ## Keys -/

/-- A character of a key without quotes. -/
def isBare (c : Char) : Bool :=
  ('A' ≤ c && c ≤ 'Z') || ('a' ≤ c && c ≤ 'z') || Text.isDigit c || c == '-' || c == '_'

/-- One part of a key. -/
def keyPart (s : List Char) : Option (String × List Char) :=
  match s with
  | '"' :: _ | '\'' :: _ => (lineString s).map fun r => (String.ofList r.1, r.2)
  | _ =>
    let name := s.takeWhile isBare
    if name.isEmpty then none else some (String.ofList name, s.dropWhile isBare)

/-- The parts of a key between points, with spaces around them. -/
def keyParts (fuel : Nat) (s : List Char) : Option (List String × List Char) :=
  match fuel with
  | 0 => none
  | fuel + 1 =>
    match keyPart (skipSpaces s) with
    | none => none
    | some (part, rest) =>
      match skipSpaces rest with
      | '.' :: rest => (keyParts fuel rest).map fun r => (part :: r.1, r.2)
      | rest => some ([part], rest)

/-- The nesting that a document may have, in values and in keys. -/
def nestingLimit : Nat := 80

/-- A key: the parts before the last and the last. -/
def key (s : List Char) : Option ((List String × String) × List Char) :=
  match keyParts (s.length + 1) s with
  | none => none
  | some (parts, rest) =>
    match parts.getLast? with
    | some last => if parts.length < nestingLimit then some ((parts.dropLast, last), rest) else none
    | none => none

example : anyString "\"a\\u0041\" x".toList = some (['a', 'A'], [' ', 'x']) := by decide
example : anyString "'''a''''''".toList = some (['a', '\'', '\''], ['\'']) := by decide
example : anyString "\"\"\"\na \\\n  b\"\"\"".toList = some (['a', ' ', 'b'], []) := by decide

end ProxyTrust.Toml
