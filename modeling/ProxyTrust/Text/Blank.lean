/-
  White space and trimming.

  `isBlank` is the Unicode property `White_Space`, code point by code point; `isAsciiBlank` are
  the few blanks that count in files.  `trim` takes the blanks off both ends of a text.

  Port numbers, hosts and platform names are all read through it, so that a no-break space or an
  ideographic space around a value counts as a space does.
-/

namespace ProxyTrust.Text

/-! ## The property -/

/-- The code points with the property `White_Space`, as closed ranges. -/
def blankRanges : List (Nat × Nat) :=
  [(0x09, 0x0D), (0x20, 0x20), (0x85, 0x85), (0xA0, 0xA0), (0x1680, 0x1680), (0x2000, 0x200A),
    (0x2028, 0x2029), (0x202F, 0x202F), (0x205F, 0x205F), (0x3000, 0x3000)]

/-- A character with the property `White_Space`. -/
def isBlank (c : Char) : Bool :=
  blankRanges.any fun r => r.1 ≤ c.toNat && c.toNat ≤ r.2

/-- The blanks among the first 128 characters that also separate lines of base64 text. -/
def isAsciiBlank (c : Char) : Bool :=
  c == ' ' || c == '\t' || c == '\n' || c == '\x0c' || c == '\r'

/-! ## Trimming -/

/-- The text from its first character that is not blank. -/
def trimStart (s : List Char) : List Char := s.dropWhile isBlank

/-- The text up to its last character that is not blank. -/
def trimEnd (s : List Char) : List Char := (s.reverse.dropWhile isBlank).reverse

/-- The text without the blanks at its two ends. -/
def trim (s : List Char) : List Char := trimEnd (trimStart s)

example : trim [' ', 'a', ' ', 'b', '\t', '\u3000'] = ['a', ' ', 'b'] := by decide
example : isBlank '\u200b' = false := by decide

end ProxyTrust.Text
