/-
  Certificates: which bytes are one, and what it holds.

  `Certificate.read` walks the fixed order of fields.  It checks shape alone: no name, signature
  or extension is looked into, bytes left at the end of a sequence are ignored, and so are bytes
  after the certificate.

  1. **Faults** — a fault names the field that was being read, or tells why the bytes are no
     element.

  2. **Small fields** — version, serial number, algorithms, names, validity and the public key,
     one reader for each.

  3. **Optional fields** — two unique identifiers, told by their tags, and the row of extensions.
     What stands behind the identifiers has to be the extensions, up to the end of the body.
-/
import ProxyTrust.X509.Time

namespace ProxyTrust.X509

open Der (Reading contentOf element header)

/-! ## Faults -/

/-- A field of a certificate. -/
inductive Field where
  | version | serial | algorithm | name | date | publicKey | signature | uniqueId | extensions
  deriving Repr, DecidableEq

/-- Why bytes are no certificate. -/
inductive Fault where
  /-- The elements are broken. -/
  | der (fault : Der.Fault)
  /-- A field has the wrong content. -/
  | field (which : Field)
  deriving Repr, DecidableEq

/-- The name of a field in messages. -/
def Field.faultName : Field → String
  | version => "InvalidVersion"
  | serial => "InvalidSerial"
  | algorithm => "InvalidAlgorithmIdentifier"
  | name => "InvalidX509Name"
  | date => "InvalidDate"
  | publicKey => "InvalidSPKI"
  | signature => "InvalidSignatureValue"
  | uniqueId => "InvalidIssuerUID"
  | extensions => "InvalidExtensions"

/-- The wording of a fault. -/
def Fault.message : Fault → String
  | der (.short missing) => s!"Parsing requires {missing} bytes/chars"
  | der .badTag => "Parsing Error: Der(InvalidTag)"
  | der .badLength => "Parsing Error: Der(InvalidLength)"
  | der .indefinite => "Parsing Error: Der(DerConstraintFailed(IndefiniteLength))"
  | der .truncated => "Parsing Error: NomError(Eof)"
  | der (.unexpected wanted found) =>
    "Parsing Error: Der(UnexpectedTag \x7b expected: Some(Tag(" ++ toString wanted ++
      ")), actual: Tag(" ++ toString found ++ ") \x7d)"
  | field which => "Parsing Error: " ++ which.faultName

/-- What the reader of a field gives: a value and the bytes after it. -/
abbrev FieldReading (α : Type) := Except Fault (α × List UInt8)

/-- A reading of elements as a reading of a field. -/
def ofDer {α : Type} : Reading α → FieldReading α
  | .ok r => .ok r
  | .error fault => .error (.der fault)

/-! ## Small fields -/

/-- The tag number of SEQUENCE. -/
def sequenceTag : Nat := 16

/-- The content of a SEQUENCE. -/
def sequence (bytes : List UInt8) : FieldReading (List UInt8) := ofDer (contentOf sequenceTag bytes)

/-- The content of a version: the shortest INTEGER of at most 32 bits that is not negative. -/
def isVersion (content : List UInt8) : Bool :=
  match content with
  | [] => false
  | b :: rest =>
    if b = 0 then
      match rest with
      | [] => true
      | c :: _ => 0x80 ≤ c && rest.length ≤ 4
    else b < 0x80 && content.length ≤ 4

/-- The optional version.  The element that could be one has to be whole. -/
def version (bytes : List UInt8) : FieldReading Unit :=
  if bytes = [] then .ok ((), [])
  else match element bytes with
    | .error fault => .error (.der fault)
    | .ok (e, rest) =>
      if e.header.tagClass = .context && e.header.tag = 0 then
        match element e.content with
        | .ok (inner, _) =>
          if inner.header.tag = 2 && !inner.header.constructed && isVersion inner.content then
            .ok ((), rest)
          else .error (.field .version)
        | .error _ => .error (.field .version)
      else .ok ((), bytes)

/-- The serial number: any content, of indefinite length if it is constructed. -/
def serial (bytes : List UInt8) : FieldReading (List UInt8) :=
  match Der.looseElement? bytes with
  | some (e, rest) => if e.header.tag = 2 then .ok (e.content, rest) else .error (.field .serial)
  | none => .error (.field .serial)

/-- An algorithm: a primitive element, then at most one element that counts. -/
def algorithm (bytes : List UInt8) : FieldReading Unit :=
  match sequence bytes with
  | .error fault => .error fault
  | .ok (content, rest) =>
    match element content with
    | .error _ => .error (.field .algorithm)
    | .ok (e, parameters) =>
      if e.header.constructed then .error (.field .algorithm)
      else if parameters = [] then .ok ((), rest)
      else match element parameters with
        | .ok _ => .ok ((), rest)
        | .error _ => .error (.field .algorithm)

/-- A name: the content of a SEQUENCE, unread. -/
def name (bytes : List UInt8) : FieldReading (List UInt8) := sequence bytes

/-- One time. -/
def time (bytes : List UInt8) : FieldReading Moment :=
  match element bytes with
  | .error fault => .error (.der fault)
  | .ok (e, rest) =>
    match (TimeForm.ofTag? e.header.tag).bind fun form => readTime? form e.content with
    | some t => .ok (t, rest)
    | none => .error (.field .date)

/-- The time from which a certificate is valid, and the time until which it is. -/
structure Validity where
  notBefore : Moment
  notAfter : Moment
  deriving Repr, DecidableEq

/-- The validity field. -/
def validity (bytes : List UInt8) : Except Fault (Validity × List UInt8) :=
  match sequence bytes with
  | .error fault => .error fault
  | .ok (content, rest) => do
    let (notBefore, after) ← time content
    let (notAfter, _) ← time after
    return (⟨notBefore, notAfter⟩, rest)

/-- The zero bits at the end of a byte. -/
def trailingZeros (b : UInt8) : Nat :=
  ((List.range 8).takeWhile fun i => b.toNat / Nat.pow 2 i % 2 == 0).length

/-- The content of a BIT STRING is well formed: the unused bits it announces are there and zero. -/
def isBitString : List UInt8 → Bool
  | [] => false
  | [unused] => unused == 0
  | unused :: rest => unused.toNat ≤ trailingZeros (rest.getLast?.getD 0)

/-- The bytes of a BIT STRING. -/
def bits (which : Field) (bytes : List UInt8) : FieldReading (List UInt8) :=
  match element bytes with
  | .error fault => .error (.der fault)
  | .ok (e, rest) =>
    if e.header.tag = 3 && !e.header.constructed && isBitString e.content then
      .ok (e.content.drop 1, rest)
    else .error (.field which)

/-- The public key: an algorithm and a BIT STRING. -/
def publicKey (bytes : List UInt8) : Except Fault (List UInt8 × List UInt8) :=
  match sequence bytes with
  | .error fault => .error fault
  | .ok (content, rest) => do
    let (_, after) ← algorithm content
    let (key, _) ← bits .publicKey after
    return (key, rest)

/-! ## Optional fields -/

/-- An optional unique identifier with this tag number: not empty, otherwise unchecked.  Bytes
    that are no element are left for the next field. -/
def uniqueId (tag : Nat) (bytes : List UInt8) : FieldReading Unit :=
  match element bytes with
  | .error _ => .ok ((), bytes)
  | .ok (e, rest) =>
    if e.header.tagClass = .context && e.header.tag = tag then
      if e.content = [] then .error (.field .uniqueId) else .ok ((), rest)
    else .ok ((), bytes)

/-- One extension: a primitive element, an optional BOOLEAN of one byte and a primitive OCTET
    STRING. -/
def isExtension (content : List UInt8) : Bool :=
  match element content with
  | .error _ => false
  | .ok (id, rest) =>
    !id.header.constructed &&
      (match element rest with
        | .error _ => false
        | .ok (first, rest) =>
          let isValue (e : Der.Element) := e.header.tag == 4 && !e.header.constructed
          if first.header.tag = 1 then
            !first.header.constructed && first.content.length == 1 &&
              (match element rest with
                | .error _ => false
                | .ok (value, _) => isValue value)
          else isValue first)

/-- Nothing but extensions, each of which takes at least one byte of `fuel`. -/
def areExtensions (fuel : Nat) (bytes : List UInt8) : Bool :=
  if bytes = [] then true
  else match fuel with
    | 0 => false
    | fuel + 1 =>
      match contentOf sequenceTag bytes with
      | .error _ => false
      | .ok (content, rest) => isExtension content && areExtensions fuel rest

/-- The optional extensions, up to the end of the bytes: a header with tag number 3, whose length
    does not matter, and one SEQUENCE. -/
def extensions (bytes : List UInt8) : Except Fault Unit :=
  if bytes = [] then .ok ()
  else match header bytes with
    | .error fault => .error (.der fault)
    | .ok ((h, _), inner) =>
      if h.tag ≠ 3 then .error (.field .extensions)
      else match contentOf sequenceTag inner with
        | .error fault => .error (.der fault)
        | .ok (content, rest) =>
          if rest = [] && areExtensions content.length content then .ok ()
          else .error (.field .extensions)

/-! ## Certificates -/

/-- What a certificate holds, as far as this library looks. -/
structure Certificate where
  /-- The element that the signature covers. -/
  body : List UInt8
  /-- The content of the serial number. -/
  serial : List UInt8
  /-- The content of the issuer's name. -/
  issuer : List UInt8
  validity : Validity
  /-- The content of the subject's name. -/
  subject : List UInt8
  /-- The element of the public key. -/
  keyElement : List UInt8
  /-- The bytes of the public key. -/
  key : List UInt8
  signature : List UInt8
  deriving Repr, DecidableEq

/-- The fields of the signed body, from the content of its SEQUENCE. -/
def readBody (body content : List UInt8) : Except Fault Certificate := do
  let (_, rest) ← version content
  let (serial, rest) ← serial rest
  let (_, rest) ← algorithm rest
  let (issuer, rest) ← name rest
  let (validity, rest) ← validity rest
  let (subject, rest) ← name rest
  let keyStart := rest
  let (key, rest) ← publicKey rest
  let keyElement := Der.consumed keyStart rest
  let (_, rest) ← uniqueId 1 rest
  let (_, rest) ← uniqueId 2 rest
  extensions rest
  return ⟨body, serial, issuer, validity, subject, keyElement, key, []⟩

/-- The certificate at the start of the bytes, and the bytes after it. -/
def Certificate.read (bytes : List UInt8) : Except Fault (Certificate × List UInt8) := do
  let (content, after) ← sequence bytes
  let (bodyContent, rest) ← sequence content
  let certificate ← readBody (Der.consumed content rest) bodyContent
  let (_, rest) ← algorithm rest
  let (signature, _) ← bits .signature rest
  return ({ certificate with signature }, after)

end ProxyTrust.X509
