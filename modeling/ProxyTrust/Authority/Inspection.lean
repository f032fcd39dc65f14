/-
  A second look at a certificate: the facts that make it a sound authority.

  Everything is computed from the certificate's bytes and, where the key is at hand, from the
  private key.

  1. **The key** — the numbers of the public key are read back from its element, the key
     identifier is looked for among the bytes, and a certificate is for a key if both have the
     same numbers.

  2. **The signature** — a certificate is signed by itself if its signature is one of its own key
     over the bytes of its body.

  3. **Names and dates** — the one common name as a text, and the whole days between the two
     dates.
-/
import ProxyTrust.Authority.Provision

namespace ProxyTrust.Authority

/-- The modulus and the exponent of a public key. -/
def publicNumbers? (key : List UInt8) : Option (Nat × Nat) :=
  match Der.contentOf 16 key with
  | .error _ => none
  | .ok (content, _) =>
    match Rsa.Key.readNaturals 2 content with
    | [n, e] => some (n, e)
    | _ => none

/-- The signature was made with the certificate's own key. -/
def isSelfSigned (c : X509.Certificate) : Bool :=
  match publicNumbers? c.key with
  | some (n, e) => Rsa.Key.verifies n e c.body c.signature
  | none => false

/-- The written key identifier of a public key stands in the bytes. -/
def identifiesKey (bytes : List UInt8) (c : X509.Certificate) : Bool :=
  let value := Der.octetString (Der.octetString (X509.keyId c.keyElement))
  (Text.cutFirst? value bytes).isSome

/-- The certificate is for this key. -/
def isFor (c : X509.Certificate) (k : Rsa.Key) : Bool :=
  publicNumbers? c.key == some (k.modulus, k.exponent)

/-- The text of a name that holds one common name. -/
def nameText? (content : List UInt8) : Option String := do
  let (set, _) ← (Der.contentOf 17 content).toOption
  let (pair, _) ← (Der.contentOf 16 set).toOption
  let (_, rest) ← (Der.contentOf 6 pair).toOption
  let (value, _) ← (Der.element rest).toOption
  return "CN=" ++ String.ofList (Text.decodeLossy value.content)

/-- The whole days between the two dates of a certificate. -/
def validDays (v : X509.Validity) : Int := (v.notAfter.unix - v.notBefore.unix) / Moment.daySeconds

end ProxyTrust.Authority
