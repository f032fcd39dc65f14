/-
  Configuration files: reading one, and writing a template.

  1. **Reading** — a path that leads to nothing gives the defaults, and so does a path of which
     that cannot be found out.  What is there has to be a text that describes a configuration.

  2. **Writing the template** — it is written only where nothing is, unless that is forced; then
     it takes the place of what was there.  Whether something is there is asked before the
     directories above are made.

  Faults name the path and what was tried, with the error of the system or of the text as their
  cause.
-/
import ProxyTrust.Config.Reading
import ProxyTrust.Config.Writing
import ProxyTrust.Files.FileSystem

namespace ProxyTrust.Config

/-! ## Faults -/

/-- Why a configuration file cannot be read or written. -/
inductive FileFault where
  | unreadable (path : Path) (source : IoError)
  /-- The file does not describe a configuration. -/
  | unusable (path : Path) (fault : TextFault)
  /-- Something is there, and writing is not forced. -/
  | present (path : Path)
  /-- The directory above cannot be made. -/
  | noDirectory (path : Path) (source : IoError)
  | unwritable (path : Path) (source : IoError)
  deriving Repr, DecidableEq

/-- The wording of a fault, without its cause. -/
def FileFault.message : FileFault → String
  | unreadable path _ => "failed to read " ++ path.display
  | unusable path _ => "failed to parse " ++ path.display
  | present path => path.display ++ " already exists (pass --force to overwrite)"
  | noDirectory path _ => "failed to create " ++ path.display
  | unwritable path _ => "failed to write " ++ path.display

/-! ## Reading -/

/-- The configuration in a file, or the default one if there is none. -/
def load (fs : FileSystem) (path : Path) : Except FileFault Config :=
  if !fs.pathExists path then .ok .default
  else match fs.read path with
    | .error source => .error (.unreadable path source)
    | .ok bytes =>
      match Text.decodeUtf8? bytes with
      | none => .error (.unreadable path .notUtf8)
      | some text =>
        match ofText text with
        | .ok config => .ok config
        | .error fault => .error (.unusable path fault)

/-! ## Writing the template -/

/-- The directory that has to be there for a file, if the path names one. -/
def directoryAbove (path : Path) : Option Path := path.parent?.filter fun p => p.bytes != []

/-- The template written to a file, with the directories above it. -/
def writeTemplate (fs : FileSystem) (path : Path) : Except FileFault Unit × FileSystem :=
  match fs.write path (Text.encodeUtf8 template) FileSystem.plainMode with
  | .ok written => (.ok (), written)
  | .error source => (.error (.unwritable path source), fs)

/-- A new configuration file. -/
def init (fs : FileSystem) (path : Path) (force : Bool) : Except FileFault Unit × FileSystem :=
  if fs.pathExists path && !force then (.error (.present path), fs)
  else match directoryAbove path with
    | none => writeTemplate fs path
    | some above =>
      match fs.makeDirectories above with
      | (.error source, fs) => (.error (.noDirectory above source), fs)
      | (.ok (), fs) => writeTemplate fs path

end ProxyTrust.Config
