/-
  Tokens of a shell script: words and operators.

  The scanner reads one character at a time.  Between single quotes every character stands for
  itself up to the next single quote; between double quotes a backslash protects only a few
  characters, and parameters are known; outside quotes a backslash protects the next character,
  and adjacent pieces make one word.

  Some parts of the language are not read here: pipes, background commands, substitution,
  variables and here-documents.
-/
import ProxyTrust.Shell.Word
import ProxyTrust.Text.Numeral

namespace ProxyTrust.Shell

/-! ## Tokens -/

/-- What a redirection does. -/
inductive RedirectKind where
  | read | write | append
  /-- It makes one number stand for what another one stands for. -/
  | duplicate
  deriving Repr, DecidableEq

/-- A token. -/
inductive Token where
  | word (word : Word)
  | separator
  | newline
  | andThen | orElse
  | opening | closing
  | redirect (number : Nat) (kind : RedirectKind)
  deriving Repr, DecidableEq

/-! ## The scanner -/

/-- What the next character is read as. -/
inductive Mode where
  | bare | single | double | comment
  /-- After a backslash, outside quotes or between double quotes. -/
  | escape | doubleEscape
  /-- After a dollar sign. -/
  | dollar (quoted : Bool)
  /-- After the first character of an operator. -/
  | ampersand | bar
  /-- After an angle bracket, with the number before it. -/
  | less (number : Nat) | greater (number : Nat)
  deriving Repr, DecidableEq

/-- A mode and the word in the making, last piece first. -/
structure Scanner where
  mode : Mode
  word : Option (List Piece)
  deriving Repr, DecidableEq

namespace Scanner

/-- Nothing was read. -/
def start : Scanner := ⟨.bare, none⟩

/-- A step: the scanner after a character and the tokens that it completes, unless the character
    cannot be read. -/
abbrev Step := Option (Scanner × List Token)

/-- A word in the making as a token. -/
def close : Option (List Piece) → List Token
  | none => []
  | some pieces => [.word pieces.reverse]

/-- One more piece, with the mode after it. -/
def grow (word : Option (List Piece)) (piece : Piece) (mode : Mode) : Step :=
  some (⟨mode, some (piece :: word.getD [])⟩, [])

/-- The word ends, and a token may follow. -/
def finish (word : Option (List Piece)) (mode : Mode) (tokens : List Token) : Step :=
  some (⟨mode, none⟩, close word ++ tokens)

/-- The digits of a word that is a number. -/
def digits? (pieces : List Piece) : Option (List Char) :=
  pieces.reverse.mapM fun
    | .plain c => if Text.isDigit c then some c else none
    | _ => none

/-- An angle bracket: a number right before it belongs to it. -/
def angle (word : Option (List Piece)) (usual : Nat) (mode : Nat → Mode) : Step :=
  match (word.bind digits?).bind Text.readDigits? with
  | some n => some (⟨mode n, none⟩, [])
  | none => finish word (mode usual) []

/-- A character outside quotes. -/
def bare (word : Option (List Piece)) (c : Char) : Step :=
  match c with
  | ' ' => finish word .bare []
  | '\t' => finish word .bare []
  | '\n' => finish word .bare [.newline]
  | ';' => finish word .bare [.separator]
  | '(' => finish word .bare [.opening]
  | ')' => finish word .bare [.closing]
  | '&' => finish word .ampersand []
  | '|' => finish word .bar []
  | '<' => angle word 0 .less
  | '>' => angle word 1 .greater
  | '\'' => grow word .mark .single
  | '"' => grow word .mark .double
  | '\\' => some (⟨.escape, word⟩, [])
  | '$' => some (⟨.dollar false, word⟩, [])
  | '`' => none
  | '#' => if word = none then some (⟨.comment, none⟩, []) else grow word (.plain c) .bare
  | c => grow word (.plain c) .bare

/-- A character between double quotes. -/
def double (word : Option (List Piece)) (c : Char) : Step :=
  match c with
  | '"' => some (⟨.bare, word⟩, [])
  | '\\' => some (⟨.doubleEscape, word⟩, [])
  | '$' => some (⟨.dollar true, word⟩, [])
  | '`' => none
  | c => grow word (.quoted c) .double

/-- A character that a backslash between double quotes protects. -/
def isDoubleEscaped (c : Char) : Bool := c == '$' || c == '`' || c == '"' || c == '\\'

/-- The parameter of a character after a dollar sign. -/
def parameter? (c : Char) : Option Parameter :=
  match c with
  | '#' => some .count
  | '$' => some .process
  | '?' => some .status
  | c => if Text.isDigit c then some (.argument (Text.digitValue c)) else none

/-- A character after which a dollar sign stands for itself. -/
def endsDollar (c : Char) : Bool :=
  c == ' ' || c == '\t' || c == '\n' || c == '"' || c == '/' || c == '.' || c == ',' || c == ':'

/-- A character after a dollar sign. -/
def dollar (quoted : Bool) (word : Option (List Piece)) (c : Char) : Step :=
  match parameter? c with
  | some p => grow word (.parameter p quoted) (if quoted then .double else .bare)
  | none =>
    if !endsDollar c then none
    else if quoted then double (some (.quoted '$' :: word.getD [])) c
    else bare (some (.plain '$' :: word.getD [])) c

/-- A token, and the character after it. -/
def andBare (token : Token) (c : Char) : Step :=
  (bare none c).map fun (scanner, tokens) => (scanner, token :: tokens)

/-- One character. -/
def step (s : Scanner) (c : Char) : Step :=
  match s.mode with
  | .bare => bare s.word c
  | .single => if c = '\'' then some (⟨.bare, s.word⟩, []) else grow s.word (.quoted c) .single
  | .double => double s.word c
  | .comment => if c = '\n' then finish none .bare [.newline] else some (s, [])
  | .escape => if c = '\n' then some (⟨.bare, s.word⟩, []) else grow s.word (.quoted c) .bare
  | .doubleEscape =>
    if c = '\n' then some (⟨.double, s.word⟩, [])
    else if isDoubleEscaped c then grow s.word (.quoted c) .double
    else grow (some (.quoted '\\' :: s.word.getD [])) (.quoted c) .double
  | .dollar quoted => dollar quoted s.word c
  | .ampersand => if c = '&' then some (start, [.andThen]) else none
  | .bar => if c = '|' then some (start, [.orElse]) else none
  | .less n =>
    if c = '&' then some (start, [.redirect n .duplicate])
    else if c = '<' || c = '>' then none
    else andBare (.redirect n .read) c
  | .greater n =>
    if c = '&' then some (start, [.redirect n .duplicate])
    else if c = '>' then some (start, [.redirect n .append])
    else if c = '|' then some (start, [.redirect n .write])
    else andBare (.redirect n .write) c

/-- The tokens that the end of the script completes, unless something is left open. -/
def stop (s : Scanner) : Option (List Token) :=
  match s.mode with
  | .bare => some (close s.word)
  | .comment => some []
  | .escape => some (close (some (.plain '\\' :: s.word.getD [])))
  | .dollar false => some (close (some (.plain '$' :: s.word.getD [])))
  | _ => none

end Scanner

/-- The tokens of a text, after what the scanner has read. -/
def scan (s : Scanner) : List Char → Option (List Token)
  | [] => s.stop
  | c :: rest =>
    match s.step c with
    | none => none
    | some (s, tokens) => (scan s rest).map (tokens ++ ·)

/-- The tokens of a script. -/
def tokens? (text : List Char) : Option (List Token) := scan .start text

example : tokens? "a 'b c'&&d 2>&1".toList =
    some [.word [.plain 'a'], .word [.mark, .quoted 'b', .quoted ' ', .quoted 'c'], .andThen,
      .word [.plain 'd'], .redirect 2 .duplicate, .word [.plain '1']] := by decide

end ProxyTrust.Shell
