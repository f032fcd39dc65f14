/-
  Reading a script part by part.

  1. **Feeding** — `feed` runs the scanner over the front of a script and stops between two
     characters, so that a script is read part by part: `scan_append` goes on where `feed`
     stopped.  The state of the scanner between two characters is all that what follows depends
     on.

  2. **Fields** — a piece that quoting protects neither ends a field nor vanishes
     (`fieldsFrom_protected`), while pieces without protection may be split and may come to
     nothing.

  3. **Quotation** — `Quotes w s` says that a word is nothing but quoted text and that the text is
     `s`.  The crux is `fieldsFrom_protected`, by which such a word is one argument whatever the
     parameters of the shell are.
-/
import ProxyTrust.Shell.Script

namespace ProxyTrust.Shell

/-! ## Feeding -/

/-- The scanner after the front of a script, and the tokens that this front completes. -/
def feed (s : Scanner) : List Char → Scanner.Step
  | [] => some (s, [])
  | c :: rest =>
    match s.step c with
    | none => none
    | some (t, tokens) => (feed t rest).map fun next => (next.1, tokens ++ next.2)

/-- Fed one part after the other, the scanner completes the tokens of both. -/
theorem feed_append (s : Scanner) (front rest : List Char) :
    feed s (front ++ rest) = (feed s front).bind fun next =>
      (feed next.1 rest).map fun last => (last.1, next.2 ++ last.2) := by
  induction front generalizing s with
  | nil => simp [feed]
  | cons c front ih =>
    rw [List.cons_append, feed, feed]
    cases s.step c with
    | none => rfl
    | some next =>
      show (feed next.1 (front ++ rest)).map (fun last => (last.1, next.2 ++ last.2)) = _
      rw [ih, Option.map_bind, Option.bind_map]
      congr 1
      funext middle
      simp [Function.comp_def]

/-- A script is scanned by feeding it to the end, where nothing may be left open. -/
theorem scan_eq_feed (s : Scanner) (text : List Char) :
    scan s text = (feed s text).bind fun next => next.1.stop.map (next.2 ++ ·) := by
  induction text generalizing s with
  | nil => simp [feed, scan]
  | cons c text ih =>
    rw [scan, feed]
    cases s.step c with
    | none => rfl
    | some next =>
      show (scan next.1 text).map (next.2 ++ ·) = _
      rw [ih, Option.map_bind, Option.bind_map]
      congr 1
      funext last
      simp [Function.comp_def]

/-- A script is read part by part: after the front was fed, the rest is scanned. -/
theorem scan_append {s t : Scanner} {front : List Char} {tokens : List Token} (rest : List Char)
    (hfront : feed s front = some (t, tokens)) :
    scan s (front ++ rest) = (scan t rest).map (tokens ++ ·) := by
  rw [scan_eq_feed, scan_eq_feed, feed_append, hfront, Option.bind_some, Option.bind_map,
    Option.map_bind]
  congr 1
  funext last
  simp [Function.comp_def]

/-! ## Quotation -/

/-- The word is quoted throughout and stands for one argument, the text. -/
structure Quotes (w : Word) (s : List Char) : Prop where
  isProtected : ∀ piece ∈ w, piece.isProtected = true
  literal_eq : literal w = s
  /-- Whatever parameters stand for, the word expands to the text alone. -/
  fields_eq : ∀ value : Parameter → List Char, fields value w = [s]

/-- A protected piece adds its character to the field in the making, which goes on. -/
theorem fieldsFrom_bits {piece : Piece} (hpiece : piece.isProtected = true)
    (value : Parameter → List Char) (field : List Char) (rest : List Bit) :
    fieldsFrom (some field) (piece.bits value ++ rest)
      = fieldsFrom (some (piece.literal.reverse ++ field)) rest := by
  cases piece with
  | plain c => nomatch hpiece
  | quoted c => rfl
  | mark => rfl
  | parameter p quoted => nomatch hpiece

/-- A field in the making goes on to the end of a word that is protected throughout. -/
theorem fieldsFrom_protected {w : Word} (hw : ∀ piece ∈ w, piece.isProtected = true)
    (value : Parameter → List Char) (field : List Char) :
    fieldsFrom (some field) (w.flatMap (Piece.bits value)) = [field.reverse ++ literal w] := by
  induction w generalizing field with
  | nil => simp [fieldsFrom, closeField, literal]
  | cons piece w ih =>
    have hpiece : piece.isProtected = true := hw piece (List.mem_cons_self ..)
    have hrest : ∀ p ∈ w, p.isProtected = true := fun p hp => hw p (List.mem_cons_of_mem piece hp)
    rw [List.flatMap_cons, fieldsFrom_bits hpiece, ih hrest]
    simp [literal]

/-- A pair of quotes in front makes a word of protected pieces one argument, even of none of
    them. -/
theorem quotes_mark {w : Word} (hw : ∀ piece ∈ w, piece.isProtected = true) :
    Quotes (.mark :: w) (literal w) where
  isProtected := by
    intro piece hpiece
    rcases List.mem_cons.mp hpiece with rfl | hpiece
    · rfl
    · exact hw piece hpiece
  literal_eq := rfl
  fields_eq := by
    intro value
    show fieldsFrom (some []) (w.flatMap (Piece.bits value)) = [literal w]
    rw [fieldsFrom_protected hw]
    rfl

/-! ## Unquoted words -/

/-- An unquoted text stands for itself, unless there is nothing of it. -/
theorem fields_plainWord (value : Parameter → List Char) {s : List Char} (hs : s ≠ []) :
    fields value (plainWord s) = [s] := by
  -- a field that is begun takes in one character after another
  have hgrow : ∀ (s field : List Char),
      fieldsFrom (some field) ((plainWord s).flatMap (Piece.bits value))
        = [field.reverse ++ s] := by
    intro s
    induction s with
    | nil => intro field; simp [plainWord, fieldsFrom, closeField]
    | cons c s ih =>
      intro field
      show fieldsFrom (some (c :: field)) ((plainWord s).flatMap (Piece.bits value)) = _
      rw [ih]
      simp
  cases s with
  | nil => exact absurd rfl hs
  | cons c s => exact hgrow s [c]

end ProxyTrust.Shell
