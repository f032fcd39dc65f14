/-
  A certificate that was written is read back.

  1. **Fields** — every field of the layout is an element or a SEQUENCE of them, so that each
     reader takes its field and leaves what follows.  What is proved of each field is stated with
     an arbitrary rest, and the readers are put together by rewriting from the front.

  2. **Lengths** — a length has a bound, above which nothing is written that could be read.  A
     part is shorter than the whole, which bounds all lengths at once: the one hypothesis on the
     whole certificate goes down to every field of it.

  3. **Extensions** — the row of extensions is read to its end; each one takes at least a byte, so
     that the length of the row is fuel enough (`areExtensions_row`).

  4. **The whole** — `read_signed`: the certificate of a draft, field by field, whatever the
     serial number, the key and the signature are, as long as the two times can be read.
-/
import ProxyTrust.Proofs.X509.Time
import ProxyTrust.X509.Layout

namespace ProxyTrust

/-! ## Numbers without leading zeros -/

/-- Without its leading zeros a row is the shortest one for its number. -/
theorem Bytes.minimalBytes_dropWhile (bytes : List UInt8) :
    minimalBytes (ofBigEndian bytes) = bytes.dropWhile (· == 0) := by
  induction bytes with
  | nil => rfl
  | cons b bytes ih =>
    by_cases hb : b = 0
    · have hvalue : ofBigEndian (0 :: bytes) = ofBigEndian bytes := by
        rw [ofBigEndian_cons]
        simp
      rw [hb, hvalue, ih]
      rfl
    · rw [minimalBytes_ofBigEndian hb, List.dropWhile_cons_of_neg]
      simpa using hb

namespace X509

open Der (content_lt lengthBound length_lt_write part_lt write)

/-- The element of a serial number is the INTEGER that its bytes spell. -/
theorem serialElement_eq (serial : List UInt8) :
    serialElement serial = Der.natural (Bytes.ofBigEndian serial) := by
  rw [serialElement, Der.natural, Der.naturalContent, Bytes.minimalBytes_dropWhile]
  cases serial.dropWhile (· == 0) with
  | nil => rfl
  | cons b rest =>
    simp only
    split
    · rfl
    · rfl

/-! ## Fields -/

variable {rest : List UInt8}

theorem sequenceTag_eq : (0x30 : UInt8).toNat % 32 = sequenceTag := rfl

theorem sequence_sequence {parts : List (List UInt8)}
    (h : (Der.sequence parts).length < lengthBound) (rest : List UInt8) :
      sequence (Der.sequence parts ++ rest) = .ok (parts.flatten, rest) := by
  rw [sequence, Der.sequence, Der.contentOf_write sequenceTag_eq (by decide) (content_lt h)]
  rfl

/-- The version is read, and what follows it is left. -/
theorem version_versionThree (rest : List UInt8) :
    version (versionThree ++ rest) = .ok ((), rest) := by
  have hne : versionThree ++ rest ≠ [] := List.cons_ne_nil _ _
  have hinner : Der.element (Der.natural 2) = .ok (⟨Der.headerOf 0x02 1, [2]⟩, []) := rfl
  rw [version, if_neg hne, versionThree, Der.element_write (by decide) (by decide)]
  simp only [Der.headerOf, hinner]
  rfl

/-- A serial number is read as its number. -/
theorem serial_serialElement {number : List UInt8} (h : (serialElement number).length < lengthBound)
    (rest : List UInt8) :
    serial (serialElement number ++ rest)
      = .ok (Der.naturalContent (Bytes.ofBigEndian number), rest) := by
  rw [serialElement_eq, Der.natural] at h
  rw [serialElement_eq, Der.natural, serial,
    Der.looseElement?_write (by decide) (content_lt h)]
  rfl

/-- An algorithm with the parameter NULL. -/
theorem algorithm_sequence {identifier : List UInt8}
    (h : (Der.sequence [write 0x06 identifier, write 0x05 []]).length < lengthBound)
    (rest : List UInt8) :
    algorithm (Der.sequence [write 0x06 identifier, write 0x05 []] ++ rest) = .ok ((), rest) := by
  have hidentifier : identifier.length < lengthBound := content_lt (part_lt h List.mem_cons_self)
  have hnull : Der.element (write 0x05 []) = .ok (⟨Der.headerOf 0x05 0, []⟩, []) :=
    Der.element_write_last (by decide) (by decide)
  have hread : Der.element (write 0x06 identifier ++ write 0x05 []) = _ :=
    Der.element_write (by decide) hidentifier _
  have hmore : write 0x05 [] ≠ [] := List.cons_ne_nil _ _
  rw [algorithm, sequence_sequence h]
  simp only [List.flatten_cons, List.flatten_nil, List.append_nil, hread, if_neg hmore, hnull]
  rfl

theorem isBitString_whole (bytes : List UInt8) : isBitString (0 :: bytes) = true := by
  cases bytes with
  | nil => rfl
  | cons b bytes =>
    show decide ((0 : UInt8).toNat ≤ trailingZeros ((b :: bytes).getLast?.getD 0)) = true
    exact decide_eq_true (Nat.zero_le _)

/-- A BIT STRING of whole bytes is read as its bytes. -/
theorem bits_bitString {which : Field} {bytes : List UInt8}
    (h : (Der.bitString bytes).length < lengthBound) (rest : List UInt8) :
      bits which (Der.bitString bytes ++ rest) = .ok (bytes, rest) := by
  rw [bits, Der.bitString, Der.element_write (by decide) (content_lt h)]
  simp only [Der.headerOf, isBitString_whole]
  rfl

/-- A public key is read as its two numbers. -/
theorem publicKey_publicBytes {key : Rsa.Key} (h : key.publicBytes.length < lengthBound)
    (rest : List UInt8) : publicKey (key.publicBytes ++ rest) = .ok (key.publicNumbers, rest) := by
  rw [Rsa.Key.publicBytes, Rsa.Key.rsaEncryption] at h ⊢
  have halgorithm :=
    algorithm_sequence (part_lt h List.mem_cons_self) (Der.bitString key.publicNumbers)
  have hbits : bits .publicKey (Der.bitString key.publicNumbers ++ [])
      = .ok (key.publicNumbers, []) :=
    bits_bitString (part_lt h (by simp)) []
  rw [List.append_nil] at hbits
  rw [publicKey, sequence_sequence h]
  simp only [List.flatten_cons, List.flatten_nil, List.append_nil, halgorithm, hbits, bind,
    Except.bind]
  rfl

/-- A field that could be a unique identifier and is none is left alone. -/
theorem uniqueId_extensions (tag : Nat) (htag : tag ≠ 3) {content : List UInt8}
    (h : (write 0xA3 content).length < lengthBound) :
    uniqueId tag (write 0xA3 content) = .ok ((), write 0xA3 content) := by
  have hread : Der.element (write 0xA3 content) = _ :=
    Der.element_write_last (by decide) (content_lt h)
  have hother : ¬ ((Der.headerOf 0xA3 content.length).tagClass = .context
      ∧ (Der.headerOf 0xA3 content.length).tag = tag) := by
    rintro ⟨-, heq⟩
    exact htag heq.symm
  rw [uniqueId, hread]
  simp only [Bool.and_eq_true, decide_eq_true_eq, if_neg hother]

/-! ## Extensions -/

/-- The content of an extension. -/
def extensionContent (n : UInt8) (critical : Bool) (value : List UInt8) : List UInt8 :=
  ([write 0x06 [0x55, 0x1D, n]] ++ (if critical then [Der.true_] else [])
    ++ [Der.octetString value]).flatten

/-- An identifier, perhaps the flag, and the value. -/
theorem extensionContent_eq (n : UInt8) (critical : Bool) (value : List UInt8) :
    extensionContent n critical value
      = write 0x06 [0x55, 0x1D, n]
        ++ ((if critical then Der.true_ else []) ++ Der.octetString value) := by
  cases critical with
  | false => simp [extensionContent]
  | true => simp [extensionContent]

/-- An extension is an identifier, a flag if it is critical, and a value. -/
theorem isExtension_content {n : UInt8} {critical : Bool} {value : List UInt8}
    (h : (extension n critical value).length < lengthBound) :
    isExtension (extensionContent n critical value) = true := by
  have hcontent : (extensionContent n critical value).length < lengthBound := content_lt h
  have hvalue : value.length < lengthBound := by
    have hinside := length_lt_write 0x04 value
    rw [extensionContent_eq, List.length_append, List.length_append, Der.octetString] at hcontent
    omega
  have hidentifier : ∀ rest, Der.element (write 0x06 [0x55, 0x1D, n] ++ rest)
      = .ok (⟨Der.headerOf 0x06 3, [0x55, 0x1D, n]⟩, rest) :=
    Der.element_write (by decide) (show 3 < lengthBound by decide)
  have hoctets :
      Der.element (Der.octetString value) = .ok (⟨Der.headerOf 0x04 value.length, value⟩, []) :=
    Der.element_write_last (by decide) hvalue
  rw [extensionContent_eq, isExtension, hidentifier]
  cases critical with
  | false =>
    simp only [Bool.false_eq_true, if_false, List.nil_append, hoctets]
    rfl
  | true =>
    -- the flag is only written where it is set
    have hflag :
        ∀ rest, Der.element (Der.true_ ++ rest) = .ok (⟨Der.headerOf 0x01 1, [0xFF]⟩, rest) :=
      Der.element_write (by decide) (by decide)
    simp only [if_true, hflag, hoctets]
    rfl

/-- A row of extensions, with fuel for each. -/
theorem areExtensions_row {contents : List (List UInt8)} {fuel : Nat}
    (hfuel : contents.length ≤ fuel)
    (hcontents : ∀ content ∈ contents, isExtension content = true ∧ content.length < lengthBound) :
    areExtensions fuel (contents.map (write 0x30)).flatten = true := by
  induction contents generalizing fuel with
  | nil => cases fuel <;> rfl
  | cons content contents ih =>
    -- the first extension takes one unit of the fuel
    obtain ⟨fuel, rfl⟩ : ∃ less, fuel = less + 1 :=
      ⟨fuel - 1, by rw [List.length_cons] at hfuel; omega⟩
    obtain ⟨hextension, hlength⟩ := hcontents content List.mem_cons_self
    have hlater := ih (Nat.le_of_succ_le_succ hfuel)
      fun other hother => hcontents other (List.mem_cons_of_mem content hother)
    have hmore : write 0x30 content ++ (contents.map (write 0x30)).flatten ≠ [] :=
      List.cons_ne_nil _ _
    rw [List.map_cons, List.flatten_cons, areExtensions, if_neg hmore,
      Der.contentOf_write sequenceTag_eq (by decide) hlength]
    simp only [hextension, hlater]
    rfl

/-- Every extension takes a byte at least. -/
theorem length_le_row (contents : List (List UInt8)) :
    contents.length ≤ (contents.map (write 0x30)).flatten.length := by
  induction contents with
  | nil => exact Nat.zero_le _
  | cons content contents ih =>
    have hfirst := length_lt_write 0x30 content
    rw [List.map_cons, List.flatten_cons, List.length_cons, List.length_append]
    omega

/-- The field of the extensions is read to its end. -/
theorem extensions_write (contents : List (List UInt8))
    (h : (write 0xA3 (Der.sequence (contents.map (write 0x30)))).length < lengthBound)
    (hcontents : ∀ content ∈ contents, isExtension content = true) :
    extensions (write 0xA3 (Der.sequence (contents.map (write 0x30)))) = .ok () := by
  have hrow : (Der.sequence (contents.map (write 0x30))).length < lengthBound := content_lt h
  have hbound : ∀ content ∈ contents, isExtension content = true
      ∧ content.length < lengthBound := by
    intro content hcontent
    have hmem : write 0x30 content ∈ contents.map (write 0x30) := List.mem_map_of_mem hcontent
    exact ⟨hcontents content hcontent, content_lt (part_lt hrow hmem)⟩
  have hmore : write 0xA3 (Der.sequence (contents.map (write 0x30))) ≠ [] := List.cons_ne_nil _ _
  have hheader : Der.header (write 0xA3 (Der.sequence (contents.map (write 0x30))) ++ []) = _ :=
    Der.header_write (by decide) hrow []
  have hinner : Der.contentOf sequenceTag (Der.sequence (contents.map (write 0x30)) ++ [])
      = .ok ((contents.map (write 0x30)).flatten, []) :=
    Der.contentOf_write sequenceTag_eq (by decide) (content_lt hrow) []
  rw [List.append_nil] at hheader
  rw [extensions, if_neg hmore, hheader]
  simp only [hinner, areExtensions_row (length_le_row contents) hbound]
  rfl

/-! ## The whole -/

/-- The content of a name. -/
def nameContent (commonName : String) : List UInt8 :=
  [write 0x31 (Der.sequence [write 0x06 [0x55, 0x04, 0x03],
    write 0x0C (Text.encodeUtf8 commonName.toList)])].flatten

theorem name_nameElement {commonName : String} (h : (nameElement commonName).length < lengthBound)
    (rest : List UInt8) :
      name (nameElement commonName ++ rest) = .ok (nameContent commonName, rest) :=
  sequence_sequence h rest

theorem algorithm_signatureAlgorithm (rest : List UInt8) :
    algorithm (signatureAlgorithm ++ rest) = .ok ((), rest) :=
  algorithm_sequence (by decide) rest

/-- The two times of a validity, if they can be read. -/
theorem validity_sequence {first last : List UInt8} {notBefore notAfter : Moment}
    (h : (Der.sequence [first, last]).length < lengthBound)
    (hfirst : ∀ rest, time (first ++ rest) = .ok (notBefore, rest))
    (hlast : ∀ rest, time (last ++ rest) = .ok (notAfter, rest)) (rest : List UInt8) :
    validity (Der.sequence [first, last] ++ rest) = .ok (⟨notBefore, notAfter⟩, rest) := by
  rw [validity, sequence_sequence h]
  simp only [List.flatten_cons, List.flatten_nil, hfirst, hlast, bind, Except.bind]
  rfl

namespace Draft

/-- The fields of the signed body. -/
def parts (d : Draft) : List (List UInt8) :=
  [versionThree, serialElement d.serial, signatureAlgorithm, nameElement d.commonName,
    Der.sequence [d.notBefore, d.notAfter], nameElement d.commonName, d.key.publicBytes,
    write 0xA3 (Der.sequence [keyUsage, subjectKeyId d.key, basicConstraints])]

/-- What a certificate holds that is made from a draft, with the times read. -/
def certificate (d : Draft) (signature : List UInt8) (notBefore notAfter : Moment) :
    Certificate where
  body := d.body
  serial := Der.naturalContent (Bytes.ofBigEndian d.serial)
  issuer := nameContent d.commonName
  validity := ⟨notBefore, notAfter⟩
  subject := nameContent d.commonName
  keyElement := d.key.publicBytes
  key := d.key.publicNumbers
  signature := signature

/-- The three extensions of every certificate are accepted. -/
theorem extensions_parts {key : Rsa.Key}
    (h : (write 0xA3 (Der.sequence [keyUsage, subjectKeyId key, basicConstraints])).length
      < lengthBound) :
    extensions (write 0xA3 (Der.sequence [keyUsage, subjectKeyId key, basicConstraints]))
      = .ok () := by
  have hrow : (Der.sequence [keyUsage, subjectKeyId key, basicConstraints]).length < lengthBound :=
    content_lt h
  refine extensions_write [extensionContent 15 true (write 0x03 [0x07, 0x06, 0x00]),
    extensionContent 14 false (Der.octetString (keyId key.publicBytes)),
    extensionContent 19 true (Der.sequence [Der.true_, Der.natural 0])] h ?_
  intro content hcontent
  simp only [List.mem_cons, List.not_mem_nil, or_false] at hcontent
  rcases hcontent with rfl | rfl | rfl
  · exact isExtension_content (part_lt hrow (by simp [keyUsage]))
  · exact isExtension_content (part_lt hrow (by simp [subjectKeyId]))
  · exact isExtension_content (part_lt hrow (by simp [basicConstraints]))

variable {d : Draft} {notBefore notAfter : Moment}

/-- The body is read field by field, up to its end. -/
theorem readBody_parts (h : d.body.length < lengthBound)
    (hfirst : ∀ rest, time (d.notBefore ++ rest) = .ok (notBefore, rest))
    (hlast : ∀ rest, time (d.notAfter ++ rest) = .ok (notAfter, rest)) :
    readBody d.body d.parts.flatten = .ok (d.certificate [] notBefore notAfter) := by
  have hpart : ∀ part ∈ d.parts, part.length < lengthBound := fun _ hmem => part_lt h hmem
  have hserial := serial_serialElement (hpart (serialElement d.serial) (by simp [parts]))
  have hname := name_nameElement (hpart (nameElement d.commonName) (by simp [parts]))
  have hvalidity := validity_sequence (hpart _ (by simp [parts])) hfirst hlast
  have hkey := publicKey_publicBytes (hpart d.key.publicBytes (by simp [parts]))
  have hrest : (write 0xA3 (Der.sequence [keyUsage, subjectKeyId d.key, basicConstraints])).length
      < lengthBound := hpart _ (by simp [parts])
  -- behind the key stands the field of the extensions, which is no unique identifier
  have hissuer := uniqueId_extensions 1 (by decide) hrest
  have hsubject := uniqueId_extensions 2 (by decide) hrest
  simp only [readBody, parts, List.flatten_cons, List.flatten_nil, List.append_nil,
    version_versionThree, hserial, algorithm_signatureAlgorithm, hname, hvalidity, hkey, hissuer,
      hsubject, extensions_parts hrest,
    Der.consumed_append, bind, Except.bind]
  rfl

/-- The certificate of a draft, with any signature, is read as what the draft says. -/
theorem read_signed {signature : List UInt8} (h : (d.signed signature).length < lengthBound)
    (hfirst : ∀ rest, time (d.notBefore ++ rest) = .ok (notBefore, rest))
    (hlast : ∀ rest, time (d.notAfter ++ rest) = .ok (notAfter, rest)) :
    Certificate.read (d.signed signature)
      = .ok (d.certificate signature notBefore notAfter, []) := by
  have hbody : d.body.length < lengthBound := part_lt h List.mem_cons_self
  have hbits : bits .signature (Der.bitString signature ++ []) = .ok (signature, []) :=
    bits_bitString (part_lt h (by simp)) []
  have hwhole := sequence_sequence h []
  have hinner : sequence (d.body ++ (signatureAlgorithm ++ (Der.bitString signature ++ [])))
      = .ok (d.parts.flatten, signatureAlgorithm ++ (Der.bitString signature ++ [])) :=
        sequence_sequence hbody _
  rw [List.append_nil] at hwhole
  rw [Certificate.read, signed, hwhole]
  simp only [List.flatten_cons, List.flatten_nil, bind, Except.bind, hinner, Der.consumed_append,
    readBody_parts hbody hfirst hlast, algorithm_signatureAlgorithm, hbits]
  rfl

end Draft

end X509

end ProxyTrust
