/-
  The files of the authority, read and written.

  1. **Certificate files** — the fingerprint of the first certificate in a file of sections, over
     all bytes of the section.  The whole file is read before its first certificate is looked at,
     so that a fault in a later section wins over a fault in the certificate.

  2. **Provisioning** — only the certificate file decides whether there is an authority.  The key
     is neither looked for nor made again.  Directories are made first, for the certificate and
     then for the key, even where the authority is there.

  3. **Writing** — files are written in place, one after the other, the certificate before the
     key, and nothing is taken back.  The bits of the key file are asked for when it is opened, so
     that they count for a new file alone.
-/
import ProxyTrust.Authority.Material
import ProxyTrust.Fault
import ProxyTrust.Files.FileSystem

namespace ProxyTrust.Authority

/-! ## Certificate files -/

/-- The bytes of the first certificate section of a file. -/
def firstCertificate (path : Path) (file : List UInt8) : Except Fault (List UInt8) :=
  match Pem.sectionsOf Pem.certificateLabel file with
  | .error fault => .error (.crypto (.sections path fault))
  | .ok [] => .error (.crypto (.noCertificate path))
  | .ok (first :: _) => .ok first

/-- The fingerprint of the certificate file with these bytes. -/
def fingerprintOf (path : Path) (file : List UInt8) : Except Fault Fingerprint :=
  match firstCertificate path file with
  | .error fault => .error fault
  | .ok bytes =>
    match X509.Certificate.read bytes with
    | .error fault => .error (.crypto (.notCertificate path fault))
    | .ok _ => .ok (Fingerprint.ofBytes bytes)

/-- The fingerprint of the first certificate in the file that a path leads to. -/
def fingerprintAt (fs : FileSystem) (p : Path) : Except Fault Fingerprint :=
  match fs.read p with
  | .error source => .error (.crypto (.unreadable p source))
  | .ok bytes => fingerprintOf p bytes

/-! ## Provisioning -/

/-- What provisioning found or did. -/
inductive EnsureOutcome where
  /-- Something was at the path of the certificate. -/
  | alreadyPresent
  | generated
  deriving Repr, DecidableEq

/-- The permission bits of a new key file. -/
def keyMode : Nat := 0o600

/-- The directory above a file made, with those above it. -/
def makeParent (fs : FileSystem) (p : Path) : Except Fault Unit × FileSystem :=
  match p.parent? with
  | none => (.ok (), fs)
  | some above =>
    if above.bytes = [] then (.ok (), fs)
    else match fs.makeDirectories above with
      | (.ok (), fs) => (.ok (), fs)
      | (.error source, fs) => (.error (.filesystem above source), fs)

/-- A text written to a file. -/
def writeText (fs : FileSystem) (p : Path) (text : String) (mode : Nat) :
    Except Fault Unit × FileSystem :=
  match fs.write p (Text.encodeUtf8 text.toList) mode with
  | .ok fs => (.ok (), fs)
  | .error source => (.error (.filesystem p source), fs)

/-- The key written to its file, with the directories above it. -/
def writeKey (fs : FileSystem) (keyPath : Option Path) (m : Material) :
    Except Fault Unit × FileSystem :=
  match keyPath with
  | none => (.ok (), fs)
  | some p =>
    match makeParent fs p with
    | (.error fault, fs) => (.error fault, fs)
    | (.ok (), fs) => writeText fs p m.privateKeyPem keyMode

/-- The files of an authority written: the certificate, then the key. -/
def writeMaterial (fs : FileSystem) (certPath : Path) (keyPath : Option Path) (m : Material) :
    Except Fault Unit × FileSystem :=
  match writeText fs certPath m.certificatePem FileSystem.plainMode with
  | (.error fault, fs) => (.error fault, fs)
  | (.ok (), fs) => writeKey fs keyPath m

/-- An authority at these paths: the one that is there, or a new one from a draw at a moment. -/
def ensureFiles (draw : Draw) (now : Moment) (fs : FileSystem) (certPath : Path)
    (keyPath : Option Path) : Except Stop EnsureOutcome × FileSystem :=
  match makeParent fs certPath with
  | (.error fault, fs) => (.error (.fault fault), fs)
  | (.ok (), fs) =>
    if fs.pathExists certPath then (.ok .alreadyPresent, fs)
    else match generate draw now with
      | .error crash => (.error (.crash crash), fs)
      | .ok material =>
        match writeMaterial fs certPath keyPath material with
        | (.error fault, fs) => (.error (.fault fault), fs)
        | (.ok (), fs) => (.ok .generated, fs)

end ProxyTrust.Authority
