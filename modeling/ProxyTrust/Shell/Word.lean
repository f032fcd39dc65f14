/-
  Words of a shell script: what quoting leaves of them, and what they expand to.

  1. **Pieces** — a word is a row of characters, each with the mark of being quoted or not, and of
     parameters.  A pair of quotes leaves a piece of its own, because it makes a word even of
     nothing.

  2. **Fields** — expanded, a word is a row of arguments.  A parameter outside quotes is split at
     its blanks, so that a word may become none or several; patterns stand for themselves.  What
     is quoted is never split.

  The values of parameters come from outside, so that what a word expands to is a function of
  them.
-/

namespace ProxyTrust.Shell

/-! ## Pieces -/

/-- What a dollar sign names. -/
inductive Parameter where
  /-- The name of the script, number 0, or one of its arguments. -/
  | argument (n : Nat)
  /-- The number of arguments. -/
  | count
  /-- The number of the process. -/
  | process
  /-- The status of the last command. -/
  | status
  deriving Repr, DecidableEq

/-- A piece of a word. -/
inductive Piece where
  | plain (c : Char)
  | quoted (c : Char)
  /-- A pair of quotes. -/
  | mark
  | parameter (parameter : Parameter) (quoted : Bool)
  deriving Repr, DecidableEq

/-- A word of a script. -/
abbrev Word := List Piece

/-- A word without any quoting. -/
def plainWord (s : List Char) : Word := s.map .plain

/-- The piece is a character that quoting protects, or a pair of quotes. -/
def Piece.isProtected : Piece → Bool
  | quoted _ => true
  | mark => true
  | _ => false

/-- The character of a piece, none for a pair of quotes. -/
def Piece.literal : Piece → List Char
  | plain c => [c]
  | quoted c => [c]
  | mark => []
  | parameter _ _ => []

/-- The characters of a word without parameters. -/
def literal (w : Word) : List Char := w.flatMap Piece.literal

/-! ## Fields -/

/-- A blank at which an expanded parameter is split. -/
def isSeparator (c : Char) : Bool := c == ' ' || c == '\t' || c == '\n'

/-- A bit of an expanded word. -/
inductive Bit where
  | char (c : Char)
  /-- There is a field, even if nothing is in it. -/
  | mark
  /-- A field ends. -/
  | gap
  deriving Repr, DecidableEq

/-- The bits of a piece. -/
def Piece.bits (value : Parameter → List Char) : Piece → List Bit
  | plain c => [.char c]
  | quoted c => [.char c]
  | mark => [.mark]
  | parameter p true => (value p).map .char
  | parameter p false => (value p).map fun c => if isSeparator c then .gap else .char c

/-- A field in the making, last character first, as a field. -/
def closeField : Option (List Char) → List (List Char)
  | none => []
  | some field => [field.reverse]

/-- The fields of a row of bits, after the field in the making. -/
def fieldsFrom (field : Option (List Char)) : List Bit → List (List Char)
  | [] => closeField field
  | .char c :: rest => fieldsFrom (some (c :: field.getD [])) rest
  | .mark :: rest => fieldsFrom (some (field.getD [])) rest
  | .gap :: rest => closeField field ++ fieldsFrom none rest

/-- The fields of a word. -/
def fields (value : Parameter → List Char) (w : Word) : List (List Char) :=
  fieldsFrom none (w.flatMap (Piece.bits value))

example : fields (fun _ => ['a', ' ', 'b']) [.parameter .count false] = [['a'], ['b']] := by decide
example : fields (fun _ => ['a', ' ', 'b'])
    [.parameter .count true] = [['a', ' ', 'b']] := by decide
example : fields (fun _ => []) [.mark] = [[]] := by decide

end ProxyTrust.Shell
