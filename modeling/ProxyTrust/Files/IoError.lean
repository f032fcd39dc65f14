/-
  Errors of the operating system.

  An `IoError` is what a file operation or the start of a program ends with when it fails.  It has
  a kind, by which callers tell an interruption from other failures, and a text for the user.

  1. **Kinds** — the table of kinds with their names and texts.

  2. **Error numbers** — most errors are numbers of the system, which has a text for each of them
     and tells its kind.

  3. **Errors of this library** — the numbers that the operations here end with, and the errors
     that have no number: a NUL in a path or in a command, and bytes that are not UTF-8.
-/

namespace ProxyTrust

/-! ## Kinds -/

/-- What went wrong, independent of the system call. -/
inductive IoKind where
  | notFound | permissionDenied | connectionRefused | connectionReset | connectionAborted
  | hostUnreachable | networkUnreachable | networkDown | notConnected | addrInUse
  | addrNotAvailable | alreadyExists | wouldBlock | notADirectory | isADirectory
  | directoryNotEmpty | readOnlyFilesystem | filesystemLoop | staleHandle | invalidInput
  | invalidData | timedOut | storageFull | notSeekable | quotaExceeded | fileTooLarge
  | resourceBusy | executableFileBusy | deadlock | crossesDevices | tooManyLinks
  | invalidFilename | argumentListTooLong | interrupted | unsupported | unexpectedEof
  | outOfMemory | brokenPipe | inProgress | other | uncategorized
  deriving Repr, DecidableEq

/-- The name and the standard text of every kind. -/
def IoKind.table : List (IoKind × String × String) := [
  (.notFound, "NotFound", "entity not found"),
  (.permissionDenied, "PermissionDenied", "permission denied"),
  (.connectionRefused, "ConnectionRefused", "connection refused"),
  (.connectionReset, "ConnectionReset", "connection reset"),
  (.connectionAborted, "ConnectionAborted", "connection aborted"),
  (.hostUnreachable, "HostUnreachable", "host unreachable"),
  (.networkUnreachable, "NetworkUnreachable", "network unreachable"),
  (.networkDown, "NetworkDown", "network down"),
  (.notConnected, "NotConnected", "not connected"),
  (.addrInUse, "AddrInUse", "address in use"),
  (.addrNotAvailable, "AddrNotAvailable", "address not available"),
  (.alreadyExists, "AlreadyExists", "entity already exists"),
  (.wouldBlock, "WouldBlock", "operation would block"),
  (.notADirectory, "NotADirectory", "not a directory"),
  (.isADirectory, "IsADirectory", "is a directory"),
  (.directoryNotEmpty, "DirectoryNotEmpty", "directory not empty"),
  (.readOnlyFilesystem, "ReadOnlyFilesystem", "read-only filesystem or storage medium"),
  (.filesystemLoop, "FilesystemLoop", "filesystem loop or indirection limit (e.g. symlink loop)"),
  (.staleHandle, "StaleNetworkFileHandle", "stale network file handle"),
  (.invalidInput, "InvalidInput", "invalid input parameter"),
  (.invalidData, "InvalidData", "invalid data"),
  (.timedOut, "TimedOut", "timed out"),
  (.storageFull, "StorageFull", "no storage space"),
  (.notSeekable, "NotSeekable", "seek on unseekable file"),
  (.quotaExceeded, "QuotaExceeded", "quota exceeded"),
  (.fileTooLarge, "FileTooLarge", "file too large"),
  (.resourceBusy, "ResourceBusy", "resource busy"),
  (.executableFileBusy, "ExecutableFileBusy", "executable file busy"),
  (.deadlock, "Deadlock", "deadlock"),
  (.crossesDevices, "CrossesDevices", "cross-device link or rename"),
  (.tooManyLinks, "TooManyLinks", "too many links"),
  (.invalidFilename, "InvalidFilename", "invalid filename"),
  (.argumentListTooLong, "ArgumentListTooLong", "argument list too long"),
  (.interrupted, "Interrupted", "operation interrupted"),
  (.unsupported, "Unsupported", "unsupported"),
  (.unexpectedEof, "UnexpectedEof", "unexpected end of file"),
  (.outOfMemory, "OutOfMemory", "out of memory"),
  (.brokenPipe, "BrokenPipe", "broken pipe"),
  (.inProgress, "InProgress", "in progress"),
  (.other, "Other", "other error"),
  (.uncategorized, "Uncategorized", "uncategorized error")]

/-- The name of a kind. -/
def IoKind.name (kind : IoKind) : String :=
  match IoKind.table.find? (·.1 == kind) with
  | some row => row.2.1
  | none => ""

/-- The standard text of a kind. -/
def IoKind.text (kind : IoKind) : String :=
  match IoKind.table.find? (·.1 == kind) with
  | some row => row.2.2
  | none => ""

/-- The kind of a name. -/
def IoKind.ofName? (name : String) : Option IoKind :=
  (IoKind.table.find? (·.2.1 == name)).map (·.1)

/-! ## Error numbers -/

/-- The texts of the error numbers of Linux, from number 0 on. -/
def errorTexts : Array String := #[
  "Success",
  "Operation not permitted",
  "No such file or directory",
  "No such process",
  "Interrupted system call",
  "Input/output error",
  "No such device or address",
  "Argument list too long",
  "Exec format error",
  "Bad file descriptor",
  "No child processes",
  "Resource temporarily unavailable",
  "Cannot allocate memory",
  "Permission denied",
  "Bad address",
  "Block device required",
  "Device or resource busy",
  "File exists",
  "Invalid cross-device link",
  "No such device",
  "Not a directory",
  "Is a directory",
  "Invalid argument",
  "Too many open files in system",
  "Too many open files",
  "Inappropriate ioctl for device",
  "Text file busy",
  "File too large",
  "No space left on device",
  "Illegal seek",
  "Read-only file system",
  "Too many links",
  "Broken pipe",
  "Numerical argument out of domain",
  "Numerical result out of range",
  "Resource deadlock avoided",
  "File name too long",
  "No locks available",
  "Function not implemented",
  "Directory not empty",
  "Too many levels of symbolic links",
  "Unknown error 41",
  "No message of desired type",
  "Identifier removed",
  "Channel number out of range",
  "Level 2 not synchronized",
  "Level 3 halted",
  "Level 3 reset",
  "Link number out of range",
  "Protocol driver not attached",
  "No CSI structure available",
  "Level 2 halted",
  "Invalid exchange",
  "Invalid request descriptor",
  "Exchange full",
  "No anode",
  "Invalid request code",
  "Invalid slot",
  "Unknown error 58",
  "Bad font file format",
  "Device not a stream",
  "No data available",
  "Timer expired",
  "Out of streams resources",
  "Machine is not on the network",
  "Package not installed",
  "Object is remote",
  "Link has been severed",
  "Advertise error",
  "Srmount error",
  "Communication error on send",
  "Protocol error",
  "Multihop attempted",
  "RFS specific error",
  "Bad message",
  "Value too large for defined data type",
  "Name not unique on network",
  "File descriptor in bad state",
  "Remote address changed",
  "Can not access a needed shared library",
  "Accessing a corrupted shared library",
  ".lib section in a.out corrupted",
  "Attempting to link in too many shared libraries",
  "Cannot exec a shared library directly",
  "Invalid or incomplete multibyte or wide character",
  "Interrupted system call should be restarted",
  "Streams pipe error",
  "Too many users",
  "Socket operation on non-socket",
  "Destination address required",
  "Message too long",
  "Protocol wrong type for socket",
  "Protocol not available",
  "Protocol not supported",
  "Socket type not supported",
  "Operation not supported",
  "Protocol family not supported",
  "Address family not supported by protocol",
  "Address already in use",
  "Cannot assign requested address",
  "Network is down",
  "Network is unreachable",
  "Network dropped connection on reset",
  "Software caused connection abort",
  "Connection reset by peer",
  "No buffer space available",
  "Transport endpoint is already connected",
  "Transport endpoint is not connected",
  "Cannot send after transport endpoint shutdown",
  "Too many references: cannot splice",
  "Connection timed out",
  "Connection refused",
  "Host is down",
  "No route to host",
  "Operation already in progress",
  "Operation now in progress",
  "Stale file handle",
  "Structure needs cleaning",
  "Not a XENIX named type file",
  "No XENIX semaphores available",
  "Is a named type file",
  "Remote I/O error",
  "Disk quota exceeded",
  "No medium found",
  "Wrong medium type",
  "Operation canceled",
  "Required key not available",
  "Key has expired",
  "Key has been revoked",
  "Key was rejected by service",
  "Owner died",
  "State not recoverable",
  "Operation not possible due to RF-kill",
  "Memory page has hardware error"]

/-- The text of an error number. -/
def errorText (code : Nat) : String := errorTexts.getD code s!"Unknown error {code}"

/-- The kinds of the error numbers that have one. -/
def errorKinds : List (Nat × IoKind) := [
  (1, .permissionDenied), (2, .notFound), (4, .interrupted), (7, .argumentListTooLong),
  (11, .wouldBlock), (12, .outOfMemory), (13, .permissionDenied), (16, .resourceBusy),
  (17, .alreadyExists), (18, .crossesDevices), (20, .notADirectory), (21, .isADirectory),
  (22, .invalidInput), (26, .executableFileBusy), (27, .fileTooLarge), (28, .storageFull),
  (29, .notSeekable), (30, .readOnlyFilesystem), (31, .tooManyLinks), (32, .brokenPipe),
  (35, .deadlock), (36, .invalidFilename), (38, .unsupported), (39, .directoryNotEmpty),
  (40, .filesystemLoop), (95, .unsupported), (98, .addrInUse), (99, .addrNotAvailable),
  (100, .networkDown), (101, .networkUnreachable), (103, .connectionAborted),
  (104, .connectionReset), (107, .notConnected), (110, .timedOut), (111, .connectionRefused),
  (113, .hostUnreachable), (115, .inProgress), (116, .staleHandle), (122, .quotaExceeded)]

/-- The kind of an error number. -/
def errorKind (code : Nat) : IoKind :=
  ((errorKinds.find? (·.1 == code)).map (·.2)).getD .uncategorized

/-! ## Errors -/

/-- Why a file operation failed or a program did not run to its end. -/
inductive IoError where
  /-- The operating system answered with this error number. -/
  | system (code : Nat)
  /-- A kind and its standard text. -/
  | plain (kind : IoKind)
  /-- A kind with a text of its own. -/
  | custom (kind : IoKind) (message : String)
  deriving Repr, DecidableEq

namespace IoError

/-- The kind of an error. -/
def kind : IoError → IoKind
  | system code => errorKind code
  | plain kind => kind
  | custom kind _ => kind

/-- The text of an error. -/
def message : IoError → String
  | system code => s!"{errorText code} (os error {code})"
  | plain kind => kind.text
  | custom _ message => message

/-! ## The errors of this library -/

/-- No such file or directory. -/
def noEntry : IoError := .system 2
/-- An argument is too long for a program. -/
def tooBig : IoError := .system 7
/-- A file is no program. -/
def notExecutable : IoError := .system 8
/-- A file may not be used that way. -/
def accessDenied : IoError := .system 13
/-- Something is there already. -/
def exists_ : IoError := .system 17
/-- A component of a path is no directory. -/
def notDirectory : IoError := .system 20
/-- A directory stands where a file is wanted. -/
def isDirectory : IoError := .system 21
/-- A path or a component of it is too long. -/
def nameTooLong : IoError := .system 36
/-- Too many links were followed. -/
def linkLoop : IoError := .system 40
/-- A path holds a NUL byte. -/
def nulInPath : IoError := .custom .invalidInput "file name contained an unexpected NUL byte"
/-- A program name or an argument holds a NUL. -/
def nulInCommand : IoError := .custom .invalidInput "nul byte found in provided data"
/-- A file read as text is not UTF-8. -/
def notUtf8 : IoError := .custom .invalidData "stream did not contain valid UTF-8"

example : (IoError.system 4).kind = .interrupted := by decide

end IoError

end ProxyTrust
