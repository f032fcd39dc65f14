/-
  Which texts hold a block, and of which bytes.

  1. **The layout** — between the markers that `encode` writes there is nothing but base64 symbols
     and newlines.  Hence no dash: no marker begins there.

  2. **First blocks** — `FirstBlock label text before body after` says that the text has these
     parts around the first BEGIN marker of the label and the first END marker after it.  First
     means that the marker begins nowhere before (`Text.FirstAt`), and this is why the parts are
     determined (`FirstBlock.unique`).

  3. **Reading** — `decode_eq_ok_iff_firstBlock` is the main statement: the bytes that are read
     are those whose canonical base64 the body is, blanks apart, and a block that was written is
     read back.  Of the base64 it needs one fact alone, that the strict reader takes the canonical
     text and no other.
-/
import ProxyTrust.Pem.Block
import ProxyTrust.Proofs.Base64.Canonical
import ProxyTrust.Proofs.Text.Cutting

namespace ProxyTrust.Pem

open Text (FirstAt)

variable {label text before body after : List Char}

/-! ## The layout -/

/-- A text without the blanks that separate the lines of base64 text. -/
def withoutBlanks (s : List Char) : List Char := s.filter fun c => !Text.isAsciiBlank c

/-- What stands between the two markers of a block. -/
def bodyText (data : List UInt8) : List Char := '\n' :: (bodyRows data).flatMap (· ++ ['\n'])

/-- A block that is written is the marker, the body, the other marker and the end of the line. -/
theorem encodeChars_eq (label : List Char) (data : List UInt8) :
    encodeChars label data
      = beginMarker label ++ (bodyText data ++ (endMarker label ++ ['\n'])) := by
  simp [encodeChars, lines, bodyText]

theorem beginMarker_eq (label : List Char) :
    beginMarker label = "-----BEGIN ".toList ++ label ++ "-----".toList := rfl

theorem endMarker_eq (label : List Char) :
    endMarker label = "-----END ".toList ++ label ++ "-----".toList := rfl

theorem head?_beginMarker (label : List Char) : (beginMarker label).head? = some '-' := rfl

theorem head?_endMarker (label : List Char) : (endMarker label).head? = some '-' := rfl

theorem symbol_plain : ∀ v < 64, Base64.symbol v ≠ '-' ∧ Base64.symbol v ≠ ' '
    ∧ Base64.symbol v ≠ '\n' ∧ Base64.symbol v ≠ '\r'
    ∧ Text.isAsciiBlank (Base64.symbol v) = false := by
  decide

/-- No character of base64 text is a dash, a space or a line end. -/
theorem mem_encode_plain {data : List UInt8} {c : Char} (h : c ∈ Base64.encode data) :
    c ≠ '-' ∧ c ≠ ' ' ∧ c ≠ '\n' ∧ c ≠ '\r' ∧ Text.isAsciiBlank c = false := by
  rcases Base64.mem_encode h with ⟨v, hv, rfl⟩ | rfl
  · exact symbol_plain v hv
  · decide

theorem flatten_bodyRows (data : List UInt8) : (bodyRows data).flatten = Base64.encode data :=
  Text.flatten_chunks rowWidth (by decide) (Base64.encode data)

theorem mem_encode_of_mem_bodyRows {data : List UInt8} {row : List Char} {c : Char}
    (hrow : row ∈ bodyRows data) (hc : c ∈ row) : c ∈ Base64.encode data := by
  rw [← flatten_bodyRows]
  exact List.mem_flatten.mpr ⟨row, hrow, hc⟩

/-- No dash stands in a body, so that no marker begins there. -/
theorem not_mem_bodyText (data : List UInt8) : '-' ∉ bodyText data := by
  intro h
  rcases List.mem_cons.mp h with hnewline | h
  · revert hnewline
    decide
  · obtain ⟨row, hrow, hc⟩ := List.mem_flatMap.mp h
    rcases List.mem_append.mp hc with hc | hc
    · exact (mem_encode_plain (mem_encode_of_mem_bodyRows hrow hc)).1 rfl
    · revert hc
      decide

theorem withoutBlanks_append (s t : List Char) :
    withoutBlanks (s ++ t) = withoutBlanks s ++ withoutBlanks t := by
  rw [withoutBlanks, withoutBlanks, withoutBlanks, List.filter_append]

/-- Rows of characters that are no blanks, with a newline after each: without blanks they are what
    is in the rows. -/
theorem withoutBlanks_rows {rows : List (List Char)}
    (hrows : ∀ row ∈ rows, ∀ c ∈ row, Text.isAsciiBlank c = false) :
    withoutBlanks (rows.flatMap (· ++ ['\n'])) = rows.flatten := by
  induction rows with
  | nil => rfl
  | cons row rows ih =>
    obtain ⟨hrow, hrows⟩ := List.forall_mem_cons.mp hrows
    have hkept : withoutBlanks row = row := by
      refine List.filter_eq_self.mpr ?_
      intro c hc
      rw [hrow c hc]
      rfl
    have hnewline : withoutBlanks ['\n'] = [] := by decide
    rw [List.flatMap_cons, withoutBlanks_append, withoutBlanks_append, hkept, hnewline, ih hrows,
      List.append_nil, List.flatten_cons]

/-- Without blanks a body is the base64 of its bytes. -/
theorem withoutBlanks_bodyText (data : List UInt8) :
    withoutBlanks (bodyText data) = Base64.encode data := by
  have hrows : ∀ row ∈ bodyRows data, ∀ c ∈ row, Text.isAsciiBlank c = false := by
    intro row hrow c hc
    exact (mem_encode_plain (mem_encode_of_mem_bodyRows hrow hc)).2.2.2.2
  have hfront : withoutBlanks (bodyText data)
      = withoutBlanks ((bodyRows data).flatMap (· ++ ['\n'])) := rfl
  rw [hfront, withoutBlanks_rows hrows, flatten_bodyRows]

/-! ## First blocks -/

/-- The parts of a text around the markers of the first block of a label: the first BEGIN marker,
    and the first END marker after it. -/
structure FirstBlock (label text before body after : List Char) : Prop where
  eq : text = before ++ beginMarker label ++ body ++ endMarker label ++ after
  begins : ∀ front back, text = front ++ beginMarker label ++ back → before.length ≤ front.length
  ends : ∀ front back, body ++ endMarker label ++ after = front ++ endMarker label ++ back →
    body.length ≤ front.length

/-- A first block is a first BEGIN marker and a first END marker in the rest. -/
theorem firstBlock_iff :
    FirstBlock label text before body after ↔ ∃ rest, FirstAt (beginMarker label) text before rest
      ∧ FirstAt (endMarker label) rest body after := by
  constructor
  · intro h
    refine ⟨body ++ endMarker label ++ after, ⟨?_, h.begins⟩, ⟨rfl, h.ends⟩⟩
    rw [h.eq]
    simp only [List.append_assoc]
  · rintro ⟨rest, hbegin, hend⟩
    refine ⟨?_, hbegin.first, ?_⟩
    · rw [hbegin.eq, hend.eq]
      simp only [List.append_assoc]
    · intro front back heq
      exact hend.first front back (by rw [hend.eq, heq])

/-- A text has one first block of a label at most. -/
theorem FirstBlock.unique {before' body' after' : List Char}
    (h : FirstBlock label text before body after)
    (h' : FirstBlock label text before' body' after') :
    body = body' := by
  obtain ⟨rest, hbegin, hend⟩ := firstBlock_iff.mp h
  obtain ⟨rest', hbegin', hend'⟩ := firstBlock_iff.mp h'
  obtain ⟨-, rfl⟩ := hbegin.unique hbegin'
  exact (hend.unique hend').1

/-- The bytes that a body spells. -/
theorem bodyBytes_eq_iff (data : List UInt8) :
    bodyBytes body = Text.encodeUtf8 (Base64.encode data)
      ↔ withoutBlanks body = Base64.encode data := by
  constructor
  · exact fun h => Text.encodeUtf8_injective h
  · exact fun h => congrArg Text.encodeUtf8 h

/-! ## Reading -/

/-- A text with a block in front is read to the end of that block, whatever comes after it. -/
theorem decode_of_cut {label text : String} {data : List UInt8} {rest after : List Char}
    (hbegin : FirstAt (beginMarker label.toList) text.toList before rest)
    (hend : FirstAt (endMarker label.toList) rest body after)
    (hbody : withoutBlanks body = Base64.encode data) : decode label text = .ok data := by
  rw [decode, Text.cutFirst?_eq_some_iff.mpr hbegin]
  simp only
  rw [Text.cutFirst?_eq_some_iff.mpr hend]
  simp only
  rw [Base64.Strict.decode_eq_ok_iff.mpr ((bodyBytes_eq_iff data).mpr hbody)]

/-- What is read comes from the first block. -/
theorem firstBlock_of_decode {label text : String} {data : List UInt8}
    (h : decode label text = .ok data) :
    ∃ before body after, FirstBlock label.toList text.toList before body after
      ∧ withoutBlanks body = Base64.encode data := by
  rw [decode] at h
  split at h
  · nomatch h
  · -- the first marker, and the other one in what stands behind it
    next before rest hbegin =>
    split at h
    · nomatch h
    · next body after hend =>
      split at h
      · next bytes hbytes =>
        obtain rfl := Except.ok.inj h
        have hblock : FirstBlock label.toList text.toList before body after :=
          firstBlock_iff.mpr ⟨rest, Text.cutFirst?_eq_some_iff.mp hbegin,
            Text.cutFirst?_eq_some_iff.mp hend⟩
        exact ⟨before, body, after, hblock,
          (bodyBytes_eq_iff _).mp (Base64.Strict.decode_eq_ok_iff.mp hbytes)⟩
      · nomatch h

/-- The body of a block that was written ends where its END marker begins. -/
theorem firstAt_endMarker (label : List Char) (data : List UInt8) (after : List Char) :
    FirstAt (endMarker label) (bodyText data ++ (endMarker label ++ after))
      (bodyText data) after := by
  have hend : FirstAt (endMarker label) (endMarker label ++ after) [] after := .of_lead rfl
  have hskip := hend.skip (head?_endMarker label) (not_mem_bodyText data)
  rwa [List.append_nil] at hskip

/-- A block that was written is read back, whatever its label and whatever comes after it. -/
theorem decode_encode_append (label : String) (data : List UInt8) {text : String}
    {after : List Char} (htext : text.toList = encodeChars label.toList data ++ after) :
    decode label text = .ok data := by
  have hbegin : FirstAt (beginMarker label.toList) text.toList []
      (bodyText data ++ (endMarker label.toList ++ '\n' :: after)) := by
    refine .of_lead ?_
    rw [htext, encodeChars_eq]
    simp only [List.append_assoc]
    rfl
  exact decode_of_cut hbegin (firstAt_endMarker label.toList data ('\n' :: after))
    (withoutBlanks_bodyText data)

/-- A block alone. -/
theorem decode_encode (label : String) (data : List UInt8) :
    decode label (encode label data) = .ok data := by
  have htext : (encode label data).toList = encodeChars label.toList data ++ [] := by
    rw [encode, String.toList_ofList, List.append_nil]
  exact decode_encode_append label data htext

/-- Reading gives bytes exactly where the text holds a first block of the label, and what is in
    the block is the canonical base64 of the bytes, blanks apart.  Hence a block that was written
    is read back, whatever its label, and two bodies that are read as the same bytes are the same
    text, blanks apart. -/
theorem decode_eq_ok_iff_firstBlock (label text : String) (data : List UInt8) :
    (decode label text = .ok data ↔ ∃ before body after,
      FirstBlock label.toList text.toList before body after
        ∧ withoutBlanks body = Base64.encode data)
    ∧ decode label (encode label data) = .ok data
    ∧ ∀ label' text' before body after before' body' after',
        decode label text = .ok data → decode label' text' = .ok data →
        FirstBlock label.toList text.toList before body after →
        FirstBlock label'.toList text'.toList before' body' after' →
        withoutBlanks body = withoutBlanks body' := by
  have hspells {label text : String} {before body after : List Char}
      (h : decode label text = .ok data)
      (hblock : FirstBlock label.toList text.toList before body after) :
      withoutBlanks body = Base64.encode data := by
    obtain ⟨_, body', _, hblock', hbody⟩ := firstBlock_of_decode h
    rw [hblock.unique hblock', hbody]
  refine ⟨⟨firstBlock_of_decode, ?_⟩, decode_encode label data, ?_⟩
  · rintro ⟨before, body, after, hblock, hbody⟩
    obtain ⟨rest, hbegin, hend⟩ := firstBlock_iff.mp hblock
    exact decode_of_cut hbegin hend hbody
  · intro label' text' before body after before' body' after' h h' hblock hblock'
    rw [hspells h hblock, hspells h' hblock']

/-- One byte in two blocks: in the layout that is written, and under the empty label with the blanks
    somewhere else. -/
theorem decode_eq_ok_iff_firstBlock_spread :
    decode "A" "-----BEGIN A-----\nQQ==\n-----END A-----\n" = .ok [0x41]
    ∧ decode "" "x-----BEGIN ----- Q Q\t==-----END -----" = .ok [0x41]
    ∧ FirstBlock "A".toList "-----BEGIN A-----\nQQ==\n-----END A-----\n".toList [] "\nQQ==\n".toList
      "\n".toList
    ∧ FirstBlock [] "x-----BEGIN ----- Q Q\t==-----END -----".toList "x".toList " Q Q\t==".toList []
    ∧ withoutBlanks "\nQQ==\n".toList = withoutBlanks " Q Q\t==".toList := by
  have hfirst : FirstBlock "A".toList "-----BEGIN A-----\nQQ==\n-----END A-----\n".toList []
      "\nQQ==\n".toList "\n".toList := by
    refine firstBlock_iff.mpr ⟨"\nQQ==\n-----END A-----\n".toList, ?_, ?_⟩
    · exact Text.cutFirst?_eq_some_iff.mp (by decide +kernel)
    · exact Text.cutFirst?_eq_some_iff.mp (by decide +kernel)
  have hother : FirstBlock [] "x-----BEGIN ----- Q Q\t==-----END -----".toList "x".toList
      " Q Q\t==".toList [] := by
    refine firstBlock_iff.mpr ⟨" Q Q\t==-----END -----".toList, ?_, ?_⟩
    · exact Text.cutFirst?_eq_some_iff.mp (by decide +kernel)
    · exact Text.cutFirst?_eq_some_iff.mp (by decide +kernel)
  have hwritten : decode "A" "-----BEGIN A-----\nQQ==\n-----END A-----\n" = .ok [0x41] :=
    (decode_eq_ok_iff_firstBlock _ _ _).1.mpr ⟨_, _, _, hfirst, by decide⟩
  have hspread : decode "" "x-----BEGIN ----- Q Q\t==-----END -----" = .ok [0x41] :=
    (decode_eq_ok_iff_firstBlock _ _ _).1.mpr ⟨_, _, _, hother, by decide⟩
  exact ⟨hwritten, hspread, hfirst, hother,
    (decode_eq_ok_iff_firstBlock "A" "-----BEGIN A-----\nQQ==\n-----END A-----\n" [0x41]).2.2
      "" "x-----BEGIN ----- Q Q\t==-----END -----" _ _ _ _ _ _ hwritten hspread hfirst hother⟩

end ProxyTrust.Pem
