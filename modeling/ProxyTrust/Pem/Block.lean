/-
  Armoured blocks: bytes as base64 text between two marker lines.

  1. **Writing** — `encode` writes a block in its one layout, rows of 64 symbols and a newline
     after every line.  No bytes have no row.

  2. **Reading** — `decode` finds the first block of a label anywhere in a text: the first BEGIN
     marker, the first END marker after it, and between them the canonical base64 of the bytes,
     with blanks wherever they fall.  What stands before and behind the block is not looked at.

  A fault tells which marker is missing, or what is wrong with the text between them.
-/
import ProxyTrust.Base64.Decoding
import ProxyTrust.Text.Blank
import ProxyTrust.Text.Search
import ProxyTrust.Text.Utf8

namespace ProxyTrust.Pem

/-! ## Labels and markers -/

/-- The label of a certificate. -/
def certificateLabel : String := "CERTIFICATE"

/-- The label of an RSA private key in its own format. -/
def rsaPrivateKeyLabel : String := "RSA PRIVATE KEY"

/-- What opens a block of a label. -/
def beginMarker (label : List Char) : List Char := "-----BEGIN ".toList ++ label ++ "-----".toList

/-- What closes a block of a label. -/
def endMarker (label : List Char) : List Char := "-----END ".toList ++ label ++ "-----".toList

/-- The length of a full row of base64. -/
def rowWidth : Nat := 64

/-! ## Writing -/

/-- The rows of a block. -/
def bodyRows (data : List UInt8) : List (List Char) :=
  Text.chunks rowWidth (by decide) (Base64.encode data)

/-- The lines of a block, without their newlines. -/
def lines (label : List Char) (data : List UInt8) : List (List Char) :=
  [beginMarker label] ++ bodyRows data ++ [endMarker label]

/-- The block of the bytes, a newline after every line. -/
def encodeChars (label : List Char) (data : List UInt8) : List Char :=
  (lines label data).flatMap (· ++ ['\n'])

/-- The block of the bytes, a newline after every line. -/
def encode (label : String) (data : List UInt8) : String :=
  String.ofList (encodeChars label.toList data)

/-! ## Reading -/

/-- Why a text holds no block of a label. -/
inductive BlockFault where
  | missing (label : String)
  /-- The BEGIN marker has no END marker after it. -/
  | unterminated (label : String)
  /-- What lies between the markers is not canonical base64. -/
  | base64 (label : String) (fault : Base64.Fault)
  deriving Repr, DecidableEq

/-- The wording of a fault. -/
def BlockFault.message : BlockFault → String
  | missing label => s!"no {label} block found"
  | unterminated label => s!"unterminated {label} block"
  | base64 label fault =>
    let reason := Base64.Strict.message fault
    s!"invalid base64 in {label} block: {reason}"

/-- The base64 text of a block body, as bytes. -/
def bodyBytes (body : List Char) : List UInt8 :=
  Text.encodeUtf8 (body.filter fun c => !Text.isAsciiBlank c)

/-- The bytes of the first block of a label. -/
def decode (label text : String) : Except BlockFault (List UInt8) :=
  match Text.cutFirst? (beginMarker label.toList) text.toList with
  | none => .error (.missing label)
  | some (_, rest) =>
    match Text.cutFirst? (endMarker label.toList) rest with
    | none => .error (.unterminated label)
    | some (body, _) =>
      match Base64.Strict.decode (bodyBytes body) with
      | .ok data => .ok data
      | .error fault => .error (.base64 label fault)

end ProxyTrust.Pem
