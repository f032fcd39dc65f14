/-
  Shells over given programs.

  1. **Programs** — a system is known by what its programs do: `Programs σ` takes the name and
     arguments of a command and the state, and gives a status and the state afterwards.  What a
     program prints is not kept, so that redirections leave no trace.

  2. **Scripts** — `evaluate` is the status of a script, by recursion over its tree: `&&` goes on
     after a zero, `||` after anything else, and parentheses change neither.  `run_eq_evaluate`
     shows that the shell itself comes to this status, for every script, by induction on the tree.
     The state runs along, so that a command sees what those before it have done.

  3. **The runner** — `Programs.runner` hands the text of `sh -lc` to such a shell.  Any other
     command is not there.
-/
import ProxyTrust.Command.Runner
import ProxyTrust.Host.Runner
import ProxyTrust.Shell.Run

namespace ProxyTrust.Shell

/-- What programs do, told by the name and the arguments of a command. -/
abbrev Programs (σ : Type) := List (List Char) → σ → Nat × σ

/-- The name and the arguments that words expand to, after a command with the status `last`. -/
def expand (last : Nat) (words : List Word) : List (List Char) :=
  words.flatMap (fields (Host.outside.value last))

/-- A word that stands for one text gives one argument. -/
theorem expand_cons {last : Nat} {w : Word} {s : List Char}
    (hw : fields (Host.outside.value last) w = [s]) (words : List Word) :
    expand last (w :: words) = s :: expand last words := by
  rw [expand, List.flatMap_cons, hw]
  rfl

namespace Programs

variable {σ : Type}

/-! ## Scripts -/

/-- What a shell makes of simple commands. -/
def meaning (programs : Programs σ) : Meaning (StateM σ) Unit where
  redirect := fun _ _ => return some ()
  command := fun _ last words s =>
    match expand last words with
    | [] => (.status 0, s)
    | name :: arguments =>
      let (status, s) := programs (name :: arguments) s
      (.status status, s)

/-- The status that a script comes to and the state that it leaves, after a command with the status
    `last`. -/
def evaluate (programs : Programs σ) (last : Nat) : Script → σ → Nat × σ
  | .nothing, s => (0, s)
  | .simple words _, s =>
    match expand last words with
    | [] => (0, s)
    | name :: arguments => programs (name :: arguments) s
  | .subshell body _, s => evaluate programs last body s
  | .andThen left right, s =>
    match evaluate programs last left s with
    | (0, s) => evaluate programs 0 right s
    | failed => failed
  | .orElse left right, s =>
    match evaluate programs last left s with
    | (0, s) => (0, s)
    | (n + 1, s) => evaluate programs (n + 1) right s
  | .inTurn left right, s =>
    match evaluate programs last left s with
    | (n, s) => evaluate programs n right s

/-- A shell over programs runs every script to its end and comes to the status of the script. -/
theorem run_eq_evaluate (programs : Programs σ) (script : Script) (last : Nat) (s : σ) :
    run programs.meaning () last script s
      = (.status (programs.evaluate last script s).1, (programs.evaluate last script s).2) := by
  -- no command here leaves the shell or dies of a signal, so that every case ends in a status
  induction script generalizing last s with
  | nothing => rfl
  | simple words redirects =>
    show programs.meaning.command () last words s = _
    simp only [meaning, evaluate]
    cases expand last words <;> rfl
  | subshell body redirects ih =>
    show (let r := run programs.meaning () last body s; (r.1.ofSubshell, r.2)) = _
    rw [ih]
    rfl
  | andThen left right ihl ihr =>
    rw [run, evaluate]
    simp only [bind, StateT.bind, ihl]
    rcases programs.evaluate last left s with ⟨_ | n, t⟩
    · exact ihr 0 t
    · rfl
  | orElse left right ihl ihr =>
    rw [run, evaluate]
    simp only [bind, StateT.bind, ihl]
    rcases programs.evaluate last left s with ⟨_ | n, t⟩
    · rfl
    · exact ihr (n + 1) t
  | inTurn left right ihl ihr =>
    rw [run, evaluate]
    simp only [bind, StateT.bind, ihl]
    exact ihr _ _

/-! ## The runner -/

/-- The runner of a system that has a shell: the text after `-lc` is read as a script and run. -/
def runner (programs : Programs σ) : Runner σ
  | ⟨"sh", ["-lc", text]⟩, s =>
    match ofText? text.toList with
    | none => (.ok Host.misuse, s)
    | some script =>
      let (ended, s) := run programs.meaning () 0 script s
      (.ok (Host.statusOfEnd ended), s)
  | _, s => (.error .noEntry, s)

/-- A script handed to the runner is evaluated, and it succeeds where its status is zero. -/
theorem runSucceeded_script (programs : Programs σ) {text : String} {script : Script}
    (htext : ofText? text.toList = some script) (s : σ) :
    programs.runner.runSucceeded ⟨"sh", ["-lc", text]⟩ s
      = (.ok ((programs.evaluate 0 script s).1 == 0), (programs.evaluate 0 script s).2) := by
  have hrun : programs.runner ⟨"sh", ["-lc", text]⟩ s
      = (.ok ((programs.evaluate 0 script s).1 : Nat), (programs.evaluate 0 script s).2) := by
    simp only [runner, htext, run_eq_evaluate]
    rfl
  rw [Runner.runSucceeded, hrun]
  cases (programs.evaluate 0 script s).1 <;> rfl

end Programs

end ProxyTrust.Shell
