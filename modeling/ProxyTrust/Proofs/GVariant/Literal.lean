/-
  Literals of the text format in which desktop settings are given their values (GVariant).

  1. **Strings** — a string stands between two quotes of one kind.  A backslash begins an escape:
     a letter for a control character, four or eight hexadecimal digits for a code point, the end
     of a line for nothing, and every other character for itself.  A string holds no NUL.  The
     reader takes one character at a time (`Reading.step`).

  2. **Size** — no character adds more than one to the value, and a backslash adds none.  So a
     text that holds a backslash is never its own value, whatever it escapes; a text without
     backslash, quote and NUL is (`string?_quoted_self_iff`).

  3. **Integers** — a numeral with `0x` in front counts in base 16, one with another zero in front
     in base 8.  A number written in decimal has no zero in front, so that it is read in base 10
     (`int32?_decimal`).
-/
import ProxyTrust.Proofs.Text.Numeral
import ProxyTrust.Toml.Quoting

namespace ProxyTrust.GVariant

variable {quote c : Char} {s value : List Char} {r : Reading} {n : Nat}

/-! ## Strings -/

/-- How far a string was read after its opening quote. -/
inductive Reading where
  /-- Between the quotes. -/
  | inside (value : List Char)
  /-- After a backslash. -/
  | escape (value : List Char)
  /-- Among the digits of a code point: how many more there have to be, and the number so far. -/
  | codePoint (value : List Char) (missing number : Nat)
  /-- After the closing quote. -/
  | closed (value : List Char)
  | refused
  deriving Repr, DecidableEq

/-- The letters for control characters. -/
def controls : List (Char × Char) :=
  [('a', '\x07'), ('b', '\x08'), ('f', '\x0c'), ('n', '\n'), ('r', '\r'), ('t', '\t'),
    ('v', '\x0b')]

/-- The character that one after a backslash stands for, itself if it is no letter for a control. -/
def escaped (c : Char) : Char := ((controls.find? (·.1 == c)).map (·.2)).getD c

namespace Reading

/-- The code point is complete. -/
def complete (value : List Char) (number : Nat) : Reading :=
  match Toml.charOf? number with
  | some c => if c = '\x00' then refused else inside (value ++ [c])
  | none => refused

/-- The reading after one more character. -/
def step (quote : Char) (r : Reading) (c : Char) : Reading :=
  match r with
  | inside value =>
    if c = quote then closed value
    else if c = '\\' then escape value
    else if c = '\x00' then refused
    else inside (value ++ [c])
  | escape value =>
    if c = 'u' then codePoint value 4 0
    else if c = 'U' then codePoint value 8 0
    else if c = '\n' then inside value
    else if c = '\x00' then refused
    else inside (value ++ [escaped c])
  | codePoint value missing number =>
    match Toml.hexValue? c with
    | none => refused
    | some digit =>
      if missing ≤ 1 then complete value (number * 16 + digit)
      else codePoint value (missing - 1) (number * 16 + digit)
  | closed _ => refused
  | refused => refused

/-- The value, if the closing quote was the last character. -/
def result? : Reading → Option (List Char)
  | closed value => some value
  | _ => none

end Reading

/-- The value of a string literal. -/
def string? : List Char → Option (List Char)
  | [] => none
  | quote :: rest =>
    if quote = '\'' ∨ quote = '"' then (rest.foldl (Reading.step quote) (.inside [])).result?
    else none

example : string? "'a\\tb\\'\\u00e9\\q'".toList = some "a\tb'éq".toList := by decide
example : string? "'a\\'".toList = none := by decide
example : string? "'\\u12'".toList = none := by decide

/-! ## Size -/

/-- The number of characters read into the value. -/
def Reading.size : Reading → Nat
  | inside value => value.length
  | escape value => value.length
  | codePoint value _ _ => value.length
  | closed value => value.length
  | refused => 0

/-- A code point adds one character to the value, if it is one, and leaves the string open. -/
theorem Reading.complete_open (value : List Char) (number : Nat) :
    (Reading.complete value number).result? = none
      ∧ (Reading.complete value number).size ≤ value.length + 1 := by
  rw [Reading.complete]
  split
  · split
    · exact ⟨rfl, Nat.zero_le _⟩
    · exact ⟨rfl, by simp [Reading.size]⟩
  · exact ⟨rfl, Nat.zero_le _⟩

/-- A character closes the string, if it is the quote, or it leaves it open and adds one to the
    value at most. -/
theorem Reading.step_cases (quote : Char) (r : Reading) (c : Char) :
    (∃ value, r = .inside value ∧ c = quote ∧ r.step quote c = .closed value)
      ∨ (r.step quote c).result? = none ∧ (r.step quote c).size ≤ r.size + 1 := by
  cases r with
  | inside value =>
    -- in a string: the quote ends it, a backslash adds nothing, a NUL refuses, and else the
    -- character is added
    rw [Reading.step]
    split
    · next hquote => exact .inl ⟨value, rfl, hquote, rfl⟩
    split
    · exact .inr ⟨rfl, Nat.le_succ _⟩
    split
    · exact .inr ⟨rfl, Nat.zero_le _⟩
    · exact .inr ⟨rfl, by simp [Reading.size]⟩
  | escape value =>
    rw [Reading.step]
    split
    · exact .inr ⟨rfl, Nat.le_succ _⟩
    split
    · exact .inr ⟨rfl, Nat.le_succ _⟩
    split
    · exact .inr ⟨rfl, Nat.le_succ _⟩
    split
    · exact .inr ⟨rfl, Nat.zero_le _⟩
    · exact .inr ⟨rfl, by simp [Reading.size]⟩
  | codePoint value missing number =>
    -- digits are counted and add nothing until the code point is complete
    rw [Reading.step]
    split
    · exact .inr ⟨rfl, Nat.zero_le _⟩
    split
    · exact .inr (Reading.complete_open value _)
    · exact .inr ⟨rfl, Nat.le_succ _⟩
  | closed value => exact .inr ⟨rfl, Nat.zero_le _⟩
  | refused => exact .inr ⟨rfl, Nat.zero_le _⟩

/-- A character adds at most one to the value. -/
theorem Reading.size_step_le (quote : Char) (r : Reading) (c : Char) :
    (r.step quote c).size ≤ r.size + 1 := by
  rcases Reading.step_cases quote r c with ⟨value, rfl, -, hclosed⟩ | ⟨-, hsize⟩
  · rw [hclosed]
    exact Nat.le_succ _
  · exact hsize

/-- So a row of characters adds at most as many as there are, by induction on them. -/
theorem Reading.size_foldl_le (quote : Char) (r : Reading) (s : List Char) :
    (s.foldl (Reading.step quote) r).size ≤ r.size + s.length := by
  induction s generalizing r with
  | nil => exact Nat.le_refl _
  | cons c s ih =>
    have hstep := Reading.size_step_le quote r c
    have hrest := ih (r.step quote c)
    rw [List.foldl_cons, List.length_cons]
    omega

/-- A text that cannot be read any more is not read by reading on. -/
theorem Reading.foldl_refused (quote : Char) (s : List Char) :
    s.foldl (Reading.step quote) .refused = .refused := by
  induction s with
  | nil => rfl
  | cons c s ih => exact ih

/-- Only the closing quote closes a string. -/
theorem Reading.step_eq_closed_iff : r.step quote c = .closed value
    ↔ r = .inside value ∧ c = quote := by
  constructor
  · intro h
    rcases Reading.step_cases quote r c with ⟨found, rfl, rfl, hclosed⟩ | ⟨hopen, -⟩
    · obtain rfl := Reading.closed.inj (hclosed.symm.trans h)
      exact ⟨rfl, rfl⟩
    · rw [h] at hopen
      nomatch hopen
  · rintro ⟨rfl, rfl⟩
    rw [Reading.step, if_pos rfl]

/-- There is a value exactly if the string was closed. -/
theorem Reading.result?_eq_some_iff : r.result? = some value ↔ r = .closed value := by
  cases r with
  | closed found =>
    exact ⟨fun h => by rw [Option.some.inj h], fun h => by rw [Reading.closed.inj h]; rfl⟩
  | inside _ => exact iff_of_false (fun h => nomatch h) (fun h => nomatch h)
  | escape _ => exact iff_of_false (fun h => nomatch h) (fun h => nomatch h)
  | codePoint _ _ _ => exact iff_of_false (fun h => nomatch h) (fun h => nomatch h)
  | refused => exact iff_of_false (fun h => nomatch h) (fun h => nomatch h)

/-- A character that stands for itself between quotes of one kind. -/
def StandsForItself (quote c : Char) : Prop := c ≠ quote ∧ c ≠ '\\' ∧ c ≠ '\x00'

/-- A text between the quotes is read as itself exactly if every character in it stands for
    itself. -/
theorem foldl_inside_iff :
    s.foldl (Reading.step quote) (.inside value) = .inside (value ++ s)
      ↔ ∀ c ∈ s, StandsForItself quote c := by
  induction s generalizing value with
  | nil => simp
  | cons c s ih =>
    rw [List.foldl_cons, List.forall_mem_cons]
    by_cases hquote : c = quote
    · -- what follows the closing quote, if anything does, is refused
      refine iff_of_false (fun h => ?_) fun h => h.1.1 hquote
      rw [Reading.step, if_pos hquote] at h
      cases s with
      | nil => nomatch h
      | cons d s =>
        rw [List.foldl_cons, Reading.step, Reading.foldl_refused] at h
        nomatch h
    by_cases hbackslash : c = '\\'
    · -- a backslash adds nothing, so the value falls short of the text
      refine iff_of_false (fun h => ?_) fun h => h.1.2.1 hbackslash
      rw [Reading.step, if_neg hquote, if_pos hbackslash] at h
      have hsize := Reading.size_foldl_le quote (.escape value) s
      rw [h] at hsize
      simp only [Reading.size, List.length_append, List.length_cons] at hsize
      omega
    by_cases hnul : c = '\x00'
    · refine iff_of_false (fun h => ?_) fun h => h.1.2.2 hnul
      rw [Reading.step, if_neg hquote, if_neg hbackslash, if_pos hnul, Reading.foldl_refused] at h
      nomatch h
    · rw [Reading.step, if_neg hquote, if_neg hbackslash, if_neg hnul,
        List.append_cons value c s, ih]
      exact (and_iff_right ⟨hquote, hbackslash, hnul⟩).symm

/-- What is read between single quotes. -/
theorem string?_quoted_eq_some_iff :
    string? ('\'' :: (s ++ ['\''])) = some value
      ↔ s.foldl (Reading.step '\'') (.inside []) = .inside value := by
  rw [string?, if_pos (.inl rfl), List.foldl_append, List.foldl_cons, List.foldl_nil,
    Reading.result?_eq_some_iff, Reading.step_eq_closed_iff]
  exact and_iff_left rfl

/-- A text between single quotes is read as itself exactly if every character in it stands for
    itself. -/
theorem string?_quoted_self_iff :
    string? ('\'' :: (s ++ ['\''])) = some s ↔ ∀ c ∈ s, StandsForItself '\'' c := by
  rw [string?_quoted_eq_some_iff]
  exact foldl_inside_iff

/-! ## Integers -/

/-- The number that a row of one or more digits of a base spells. -/
def inBase? (base : Nat) (digits : List Char) : Option Nat :=
  if digits = [] then none
  else digits.foldlM (fun n c => ((Toml.hexValue? c).filter (· < base)).map (n * base + ·)) 0

/-- The number that a numeral with a zero in front spells, after that zero. -/
def afterZero? : List Char → Option Nat
  | [] => some 0
  | 'x' :: digits => inBase? 16 digits
  | 'X' :: digits => inBase? 16 digits
  | digits => inBase? 8 digits

/-- The number that a numeral without a sign spells. -/
def magnitude? : List Char → Option Nat
  | '0' :: digits => afterZero? digits
  | digits => Text.readDigits? digits

/-- The largest number of a setting that holds an integer of 32 bits. -/
def largestInt32 : Nat := 2147483647

/-- The integer of 32 bits that a numeral spells. -/
def int32? : List Char → Option Int
  | '-' :: digits =>
    (magnitude? digits).bind fun n => if n ≤ largestInt32 + 1 then some (-(n : Int)) else none
  | '+' :: digits =>
    (magnitude? digits).bind fun n => if n ≤ largestInt32 then some (n : Int) else none
  | digits => (magnitude? digits).bind fun n => if n ≤ largestInt32 then some (n : Int) else none

example : int32? "-0x1F".toList = some (-31) := by decide
example : int32? "010".toList = some 8 := by decide
example : int32? "2147483648".toList = none := by decide

/-- A number in decimal begins with a zero only if it is zero. -/
theorem head?_decimal_ne_zero (h : 0 < n) : (Text.decimal n).head? ≠ some '0' := by
  induction n using Nat.strongRecOn with
  | _ n ih =>
    by_cases hsmall : n < 10
    · have hdigit : ∀ m < 10, 0 < m → Nat.digitChar m ≠ '0' := by decide
      rw [Text.decimal, Nat.toDigits_of_lt_base hsmall]
      exact fun heq => hdigit n hsmall h (Option.some.inj heq)
    · have htenth : (Text.decimal (n / 10)).head? ≠ some '0' := ih (n / 10) (by omega) (by omega)
      have hdigits : Text.decimal n = Text.decimal (n / 10) ++ [Nat.digitChar (n % 10)] :=
        Nat.toDigits_of_base_le (by decide) (by omega)
      obtain ⟨c, rest, htext⟩ := List.exists_cons_of_ne_nil (Text.digits_decimal (n / 10)).ne_nil
      rw [htext] at htenth
      rw [hdigits, htext]
      exact htenth

/-- A number from one on, written in decimal, is read as itself. -/
theorem int32?_decimal (h : 0 < n) (hbound : n ≤ largestInt32) :
    int32? (Text.decimal n) = some (n : Int) := by
  have hread : Text.readDigits? (Text.decimal n) = some n :=
    Text.readDigits?_eq_some_iff.mpr (Text.digits_decimal n)
  have hhead := head?_decimal_ne_zero h
  cases hdigits : Text.decimal n with
  | nil => exact absurd hdigits (Text.digits_decimal n).ne_nil
  | cons c rest =>
    have hdigit : Text.isDigit c = true := by
      refine Text.isDigit_of_mem_decimal (n := n) ?_
      rw [hdigits]
      exact List.mem_cons_self
    rw [hdigits] at hread hhead
    have hzero : c ≠ '0' := fun heq => hhead (by rw [heq]; rfl)
    -- the numeral begins neither with a zero nor with a sign
    have hmagnitude : magnitude? (c :: rest) = some n := by
      rw [magnitude?, hread]
      rintro later heq
      exact hzero (List.cons.inj heq).1
    have hsign {d : Char} (hd : Text.isDigit d = false) (later : List Char) :
        c :: rest ≠ d :: later := by
      intro heq
      rw [(List.cons.inj heq).1, hd] at hdigit
      nomatch hdigit
    rw [int32?, hmagnitude]
    · exact if_pos hbound
    · exact hsign (by decide)
    · exact hsign (by decide)

end ProxyTrust.GVariant
