/-
  Strings of documents, written.

  Every string is written in double quotes on one line: the quote, the backslash and the controls
  are escaped, and every other character stands for itself.  Controls without a short escape are
  written as a code point in four digits.

  A pair is a bare name, an equals sign between two spaces, and a string.
-/

namespace ProxyTrust.Toml

/-- The controls that have a short escape. -/
def shortForms : List (Char × Char) :=
  [('"', '"'), ('\\', '\\'), ('\x08', 'b'), ('\t', 't'), ('\n', 'n'), ('\x0c', 'f'), ('\r', 'r')]

/-- A hexadecimal digit. -/
def hexForm (n : Nat) : Char :=
  if n < 10 then Char.ofNat ('0'.toNat + n) else Char.ofNat ('A'.toNat + (n - 10))

/-- How a character is written in a string. -/
def writtenChar (c : Char) : List Char :=
  match shortForms.find? (·.1 == c) with
  | some e => ['\\', e.2]
  | none =>
    if c.toNat < 0x20 || c.toNat == 0x7F then
      ['\\', 'u', '0', '0', hexForm (c.toNat / 16), hexForm (c.toNat % 16)]
    else [c]

/-- A string in double quotes. -/
def writtenString (s : List Char) : List Char := ['"'] ++ s.flatMap writtenChar ++ ['"']

/-- A line that gives a name a string. -/
def writtenPair (key : String) (s : List Char) : List Char :=
  key.toList ++ [' ', '=', ' '] ++ writtenString s ++ ['\n']

example : writtenString ['a', '"', '\x01'] =
    ['"', 'a', '\\', '"', '\\', 'u', '0', '0', '0', '1', '"'] := by decide

end ProxyTrust.Toml
