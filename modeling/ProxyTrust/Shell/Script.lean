/-
  Shell scripts as trees.

  1. **Simple commands** — a row of words and redirections.  Words that begin other compounds, and
     assignments, are not read here, so that a script with one of them is no script.

  2. **Lists** — `&&` and `||` bind equally and group to the left; both bind tighter than `;` and
     the end of a line.  A pair of parentheses makes a shell of its own.

  The reader goes down the list of tokens, with fuel for four steps a token.
-/
import ProxyTrust.Shell.Token

namespace ProxyTrust.Shell

/-- A redirection of a number. -/
structure Redirect where
  number : Nat
  kind : RedirectKind
  target : Word
  deriving Repr, DecidableEq

/-- A script. -/
inductive Script where
  /-- A script without commands. -/
  | nothing
  /-- A command: its name and arguments, with redirections. -/
  | simple (words : List Word) (redirects : List Redirect)
  /-- A script in a shell of its own. -/
  | subshell (body : Script) (redirects : List Redirect)
  /-- The right side only if the left one succeeds. -/
  | andThen (left right : Script)
  /-- The right side only if the left one fails. -/
  | orElse (left right : Script)
  /-- One side after the other. -/
  | inTurn (left right : Script)
  deriving Repr, DecidableEq

/-! ## Simple commands -/

/-- The words that begin or end a compound where a command is expected. -/
def reservedWords : List String :=
  ["!", "\x7b", "\x7d", "case", "do", "done", "elif", "else", "esac", "fi", "for", "if", "in",
    "then", "until", "while"]

/-- A letter or an underscore. -/
def isNameStart (c : Char) : Bool :=
  ('a' ≤ c && c ≤ 'z') || ('A' ≤ c && c ≤ 'Z') || c == '_'

/-- A word that assigns: a name and an equals sign, all unquoted. -/
def isAssignment : Word → Bool
  | .plain c :: rest =>
    isNameStart c && (rest.dropWhile fun
      | .plain c => isNameStart c || Text.isDigit c
      | _ => false).head? == some (.plain '=')
  | _ => false

/-- A word that cannot be the name of a simple command. -/
def isReserved (w : Word) : Bool :=
  isAssignment w || reservedWords.any fun name => w == plainWord name.toList

/-- The words and redirections at the front of the tokens, and the tokens after them. -/
def simpleParts : List Token → Option (List Word × List Redirect × List Token)
  | .word w :: rest =>
    (simpleParts rest).map fun (words, redirects, rest) => (w :: words, redirects, rest)
  | .redirect number kind :: .word target :: rest =>
    (simpleParts rest).map fun (words, redirects, rest) =>
    (words, ⟨number, kind, target⟩ :: redirects, rest)
  | .redirect _ _ :: _ => none
  | rest => some ([], [], rest)

/-- A simple command at the front of the tokens. -/
def simpleCommand (tokens : List Token) : Option (Script × List Token) :=
  match simpleParts tokens with
  | none => none
  | some ([], [], _) => none
  | some (words, redirects, rest) =>
    if (words.head?.map isReserved).getD false then none else some (.simple words redirects, rest)

/-! ## Lists -/

/-- The tokens after the ends of lines at the front. -/
def skipLines : List Token → List Token
  | .newline :: rest => skipLines rest
  | rest => rest

/-- No command follows. -/
def endsList : List Token → Bool
  | [] => true
  | .closing :: _ => true
  | _ => false

mutual

/-- Commands in turn, up to the end or a closing parenthesis. -/
def list : Nat → List Token → Option (Script × List Token)
  | 0, _ => none
  | fuel + 1, tokens =>
    match command fuel (skipLines tokens) with
    | none => none
    | some (first, rest) =>
      match chain fuel first rest with
      | none => none
      | some (first, .separator :: rest) => following fuel first rest
      | some (first, .newline :: rest) => following fuel first rest
      | some (first, rest) => if endsList rest then some (first, rest) else none

/-- What follows the end of a command in a list. -/
def following : Nat → Script → List Token → Option (Script × List Token)
  | 0, _, _ => none
  | fuel + 1, first, tokens =>
    if endsList (skipLines tokens) then some (first, skipLines tokens)
    else match list fuel tokens with
      | none => none
      | some (more, rest) => some (.inTurn first more, rest)

/-- The commands that `&&` and `||` join to the one before. -/
def chain : Nat → Script → List Token → Option (Script × List Token)
  | 0, _, _ => none
  | fuel + 1, left, .andThen :: rest =>
    match command fuel (skipLines rest) with
    | none => none
    | some (right, rest) => chain fuel (.andThen left right) rest
  | fuel + 1, left, .orElse :: rest =>
    match command fuel (skipLines rest) with
    | none => none
    | some (right, rest) => chain fuel (.orElse left right) rest
  | _ + 1, left, rest => some (left, rest)

/-- One command. -/
def command : Nat → List Token → Option (Script × List Token)
  | 0, _ => none
  | fuel + 1, .opening :: rest =>
    match list fuel rest with
    | some (body, .closing :: rest) =>
      match simpleParts rest with
      | some ([], redirects, rest) => some (.subshell body redirects, rest)
      | _ => none
    | _ => none
  | _ + 1, tokens => simpleCommand tokens

end

/-- The script of a row of tokens. -/
def ofTokens? (tokens : List Token) : Option Script :=
  match skipLines tokens with
  | [] => some .nothing
  | tokens =>
    match list (4 * tokens.length + 4) tokens with
    | some (script, []) => some script
    | _ => none

/-- The script that a text spells. -/
def ofText? (text : List Char) : Option Script := (tokens? text).bind ofTokens?

end ProxyTrust.Shell
