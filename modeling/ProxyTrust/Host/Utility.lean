/-
  The utilities of a system: what small programs do to files.

  A utility takes its input, its arguments and the files, and answers with a status, its output
  and the files.  What it would print about an error is left out.

  1. **Options** — an argument with a dash in front is an option up to two dashes alone, wherever
     it stands; an unknown option is an error.  A dash alone is an operand.

  2. **Operands** — most utilities go through their operands one by one, and a failure of one of
     them does not keep those after it from being tried.

  3. **Files** — copies go into a directory where the target is one, but not onto the file itself,
     and not through a link that leads nowhere.  A removal takes an entry away, a link and not
     what it leads to.

  4. **Conditions** — the questions of `test` about files, texts and numbers.
-/
import ProxyTrust.Files.FileSystem
import ProxyTrust.Text.Numeral
import ProxyTrust.Text.Search

namespace ProxyTrust.Host

/-- What can be read. -/
inductive Input where
  | bytes (bytes : List UInt8)
  /-- Zero bytes without end. -/
  | zeros
  deriving Repr, DecidableEq

/-- What a utility leaves. -/
structure Result where
  status : Nat
  output : List UInt8
  files : FileSystem

/-- A utility. -/
abbrev Utility := Input → List (List Char) → FileSystem → Result

/-- The path of an argument. -/
def pathOf (argument : List Char) : Path := ⟨Text.encodeUtf8 argument⟩

/-- A status and nothing else. -/
def answer (status : Nat) (fs : FileSystem) : Result := ⟨status, [], fs⟩

/-- The status of a test. -/
def statusOf (ok : Bool) : Nat := if ok then 0 else 1

/-! ## Options -/

/-- Options and operands, unless an option is not among the known letters. -/
def splitOptions (known : List Char) : List (List Char) → Option (List Char × List (List Char))
  | [] => some ([], [])
  | ['-', '-'] :: rest => some ([], rest)
  | ('-' :: letter :: letters) :: rest =>
    if (letter :: letters).all known.contains then
      (splitOptions known rest).map fun (options, operands) =>
        (letter :: letters ++ options, operands)
    else none
  | operand :: rest =>
    (splitOptions known rest).map fun (options, operands) => (options, operand :: operands)

/-- A utility with options: the body gets them and the operands. -/
def withOptions (known : List Char) (arguments : List (List Char)) (fs : FileSystem)
    (body : List Char → List (List Char) → Result) : Result :=
  match splitOptions known arguments with
  | none => answer 1 fs
  | some (options, operands) => body options operands

/-- Each operand in turn; the status is zero if all of them worked. -/
def eachOperand (one : FileSystem → List Char → Option FileSystem) (fs : FileSystem) :
    List (List Char) → Result
  | [] => answer 0 fs
  | operand :: rest =>
    match one fs operand with
    | some fs => eachOperand one fs rest
    | none => answer 1 (eachOperand one fs rest).files

/-- Each operand in turn, of which there has to be one. -/
def someOperand (one : FileSystem → List Char → Option FileSystem) (fs : FileSystem)
    (operands : List (List Char)) : Result :=
  if operands.isEmpty then answer 1 fs else eachOperand one fs operands

/-! ## Reading -/

/-- The device that nothing is in. -/
def nullDevice : Path := Path.ofString "/dev/null"

/-- The device of zero bytes. -/
def zeroDevice : Path := Path.ofString "/dev/zero"

/-- What a path gives to read. -/
def inputOf? (fs : FileSystem) (p : Path) : Option Input :=
  if p = nullDevice then some (.bytes [])
  else if p = zeroDevice then some .zeros
  else (fs.read p).toOption.map .bytes

/-- What an operand gives to read; a dash is the standard input. -/
def operandInput? (input : Input) (fs : FileSystem) (operand : List Char) : Option Input :=
  if operand = ['-'] then some input else inputOf? fs (pathOf operand)

/-- All bytes of an input that ends. -/
def allBytes : Input → List UInt8
  | .bytes b => b
  | .zeros => []

/-- The first bytes of an input. -/
def firstBytes (count : Nat) : Input → List UInt8
  | .bytes b => b.take count
  | .zeros => List.replicate count 0

/-- The first lines of an input. -/
def firstLines (count : Nat) (input : Input) : List UInt8 :=
  let step := fun (state : Nat × List UInt8) (b : UInt8) =>
    if state.1 = 0 then state else (if b = 0x0A then state.1 - 1 else state.1, b :: state.2)
  ((allBytes input).foldl step (count, [])).2.reverse

/-- The parts of the operands, or of the input where there is no operand. -/
def readEach (input : Input) (operands : List (List Char)) (fs : FileSystem)
    (part : Input → List UInt8) : Result :=
  if operands.isEmpty then ⟨0, part input, fs⟩
  else
    let inputs := operands.map (operandInput? input fs)
    ⟨statusOf (inputs.all (·.isSome)), inputs.flatMap fun i => (i.map part).getD [], fs⟩

/-- `cat`. -/
def cat : Utility := fun input arguments fs =>
  withOptions ['u'] arguments fs fun _ operands => readEach input operands fs allBytes

/-- `head`, with a count of bytes or of lines. -/
def head : Utility := fun input arguments fs =>
  match arguments with
  | ['-', 'c'] :: count :: operands =>
    match Text.readDigits? count with
    | some n => readEach input operands fs (firstBytes n)
    | none => answer 1 fs
  | ['-', 'n'] :: count :: operands =>
    match Text.readDigits? count with
    | some n => readEach input operands fs (firstLines n)
    | none => answer 1 fs
  | operands => readEach input operands fs (firstLines 10)

/-- `echo`: the arguments with single spaces between them. -/
def echo : Utility := fun _ arguments fs =>
  let line := fun words => Text.encodeUtf8 ([' '].intercalate words)
  match arguments with
  | ['-', 'n'] :: words => ⟨0, line words, fs⟩
  | words => ⟨0, line words ++ [0x0A], fs⟩

/-! ## Changing files -/

/-- The permission bits of a text of octal digits. -/
def octal? (s : List Char) : Option Nat :=
  if s.isEmpty || !s.all (fun c => '0' ≤ c && c ≤ '7') then none
  else some (s.foldl (fun n c => n * 8 + Text.digitValue c) 0)

/-- The permission bits that a change leaves of others. -/
def changeMode? (change : List Char) (mode : Nat) : Option Nat :=
  match String.ofList change with
  | "+x" => some (mode ||| 0o111)
  | "-x" => some (mode &&& 0o666)
  | _ => octal? change

/-- `chmod`, with bits in octal or `+x`. -/
def chmod : Utility := fun _ arguments fs =>
  match arguments with
  | change :: operand :: operands =>
    eachOperand (fun fs operand =>
      match fs.find (pathOf operand) with
      | .error _ => none
      | .ok place =>
        match fs.at? place with
        | some (.file content mode) =>
          (changeMode? change mode).map fun mode => fs.put place (.file content mode)
        | _ => some fs) fs (operand :: operands)
  | _ => answer 1 fs

/-- `touch`: a file is there afterwards. -/
def touch : Utility := fun _ arguments fs =>
  withOptions ['a', 'c', 'm'] arguments fs fun options operands =>
    someOperand (fun fs operand =>
      let p := pathOf operand
      if fs.pathExists p || options.contains 'c' then some fs
      else (fs.write p [] FileSystem.plainMode).toOption) fs operands

/-- `mkdir`; with `-p` the directories above are made as well, and one that is there is no error. -/
def mkdir : Utility := fun _ arguments fs =>
  withOptions ['p'] arguments fs fun options operands =>
    someOperand (fun fs operand =>
      let p := pathOf operand
      if options.contains 'p' && operand != [] then
        match fs.makeDirectories p with
        | (.ok (), fs) => some fs
        | (.error _, _) => none
      else (fs.makeDirectory p).toOption) fs operands

/-- The file system without what stands at a location and below it. -/
def removeTree (fs : FileSystem) (place : Location) : FileSystem :=
  { fs with entries := fs.entries.filter fun e => !place.isSuffixOf e.1 }

/-- One operand of `rm`. -/
def removeOne (force deep : Bool) (fs : FileSystem) (operand : List Char) : Option FileSystem :=
  let p := pathOf operand
  match fs.lookUpSelf p with
  | .error e => if force && (e.kind = .notFound || e.kind = .notADirectory) then some fs else none
  | .ok (.absent ..) => if force then some fs else none
  | .ok (.there place _) =>
    if fs.isDirectoryAt place then
      if deep && place != [] && !place.isSuffixOf fs.home then some (removeTree fs place) else none
    else if Path.endsInSlash p.bytes then if force then some fs else none
    else (fs.remove p).toOption

/-- `rm`; with `-f` a path that leads to nothing is no error, with `-r` directories are removed
    too. -/
def rm : Utility := fun _ arguments fs =>
  withOptions ['f', 'r', 'R'] arguments fs fun options operands =>
    let force := options.contains 'f'
    let deep := options.contains 'r' || options.contains 'R'
    if operands.isEmpty then answer (statusOf force) fs
    else eachOperand (removeOne force deep) fs operands

/-- Where a copy goes: into a directory under its own name, else to the path itself. -/
def copyTarget (fs : FileSystem) (source target : Path) : Path :=
  if fs.isDirectory target then
    match source.fileName? with
    | some name => ⟨target.bytes ++ [Path.separator] ++ name⟩
    | none => target
  else target

/-- A link that leads nowhere stands at the path. -/
def isDangling (fs : FileSystem) (p : Path) : Bool :=
  match fs.lookUpSelf p with
  | .ok (.there _ _) => !fs.pathExists p
  | _ => false

/-- A file copied. -/
def copyOne (fs : FileSystem) (source target : Path) : Option FileSystem :=
  let target := copyTarget fs source target
  match fs.find source with
  | .error _ => none
  | .ok place =>
    match fs.at? place with
    | some (.file content mode) =>
      if (fs.find target).toOption == some place || isDangling fs target then none
      else (fs.write target content mode).toOption
    | _ => none

/-- `cp`: a file to a path, or files into a directory. -/
def cp : Utility := fun _ arguments fs =>
  withOptions ['f', 'p'] arguments fs fun _ operands =>
    match operands.getLast?, operands.dropLast with
    | some target, [source] =>
      match copyOne fs (pathOf source) (pathOf target) with
      | some fs => answer 0 fs
      | none => answer 1 fs
    | some target, first :: second :: more =>
      if fs.isDirectory (pathOf target) then
        eachOperand (fun fs source => copyOne fs (pathOf source) (pathOf target)) fs
          (first :: second :: more)
      else answer 1 fs
    | _, _ => answer 1 fs

/-! ## Conditions -/

/-- The status of a condition that cannot be read. -/
def badCondition : Nat := 2

/-- A link stands at the path. -/
def isLink (fs : FileSystem) (p : Path) : Bool :=
  match fs.lookUpSelf p with
  | .ok (.there place _) => match fs.at? place with
    | some (.link _) => true
    | _ => false
  | _ => false

/-- The file that a path leads to. -/
def fileAt? (fs : FileSystem) (p : Path) : Option (List UInt8 × Nat) :=
  match fs.find p with
  | .ok place => match fs.at? place with
    | some (.file content mode) => some (content, mode)
    | _ => none
  | .error _ => none

/-- A condition about one argument. -/
def unary? (fs : FileSystem) (operator argument : List Char) : Option Bool :=
  let p := pathOf argument
  match String.ofList operator with
  | "-n" => some !argument.isEmpty
  | "-z" => some argument.isEmpty
  | "-e" => some (fs.pathExists p)
  | "-f" => some (fileAt? fs p).isSome
  | "-d" => some (fs.isDirectory p)
  | "-h" => some (isLink fs p)
  | "-L" => some (isLink fs p)
  | "-s" => some (((fileAt? fs p).map (!·.1.isEmpty)).getD (fs.isDirectory p))
  | "-r" => some (fs.pathExists p)
  | "-w" => some (fs.pathExists p)
  | "-x" => some (((fileAt? fs p).map fun f => f.2 &&& 0o111 != 0).getD (fs.isDirectory p))
  | _ => none

/-- The largest number in a condition. -/
def numberBound : Nat := 9223372036854775807

/-- A condition about two whole numbers. -/
def numeric? (compare : Int → Int → Bool) (a b : List Char) : Option Bool := do
  let m ← Text.readSigned? numberBound a
  let n ← Text.readSigned? numberBound b
  return compare m n

/-- A condition about two arguments. -/
def binary? (left operator right : List Char) : Option Bool :=
  match String.ofList operator with
  | "=" => some (left == right)
  | "!=" => some (left != right)
  | "-eq" => numeric? (fun m n => m = n) left right
  | "-ne" => numeric? (fun m n => m ≠ n) left right
  | "-lt" => numeric? (fun m n => m < n) left right
  | "-le" => numeric? (fun m n => m ≤ n) left right
  | "-gt" => numeric? (fun m n => m > n) left right
  | "-ge" => numeric? (fun m n => m ≥ n) left right
  | _ => none

/-- What the arguments of `test` say, by their number. -/
def condition? (fs : FileSystem) : List (List Char) → Option Bool
  | [] => some false
  | [a] => some !a.isEmpty
  | [a, b] => if a = ['!'] then some b.isEmpty else unary? fs a b
  | [a, b, c] =>
    match binary? a b c with
    | some r => some r
    | none => if a = ['!'] then (unary? fs b c).map (!·) else none
  | [a, b, c, d] => if a = ['!'] then (binary? b c d).map (!·) else none
  | _ => none

/-- `test`. -/
def test : Utility := fun _ arguments fs =>
  answer (((condition? fs arguments).map statusOf).getD badCondition) fs

/-- `[`: a condition up to a closing bracket. -/
def bracket : Utility := fun input arguments fs =>
  if arguments.getLast? = some [']'] then test input arguments.dropLast fs
  else answer badCondition fs

/-! ## The table -/

/-- The utilities that take no time, by name. -/
def utilities : List (String × Utility) :=
  [("true", fun _ _ fs => answer 0 fs), ("false", fun _ _ fs => answer 1 fs), ("cat", cat),
    ("head", head), ("echo", echo), ("touch", touch), ("chmod", chmod), ("mkdir", mkdir),
    ("rm", rm), ("cp", cp), ("test", test), ("[", bracket)]

/-- The utility of a name. -/
def utility? (name : List Char) : Option Utility :=
  (utilities.find? fun u => u.1.toList == name).map (·.2)

end ProxyTrust.Host
