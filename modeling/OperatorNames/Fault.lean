import OperatorNames.Text.Basic

/-!
# Input and output failures

A failure of the system has a number; a failure found by the program itself has a kind and perhaps
a text.  `Fault.kind` classifies both and `Fault.message` words them.
-/

namespace OperatorNames

/-- What kind of thing went wrong. -/
inductive FaultKind
  | notFound
  | permissionDenied
  | connectionRefused
  | connectionReset
  | hostUnreachable
  | networkUnreachable
  | connectionAborted
  | notConnected
  | addressInUse
  | addressNotAvailable
  | networkDown
  | brokenPipe
  | alreadyExists
  | wouldBlock
  | notADirectory
  | isADirectory
  | directoryNotEmpty
  | readOnlyFileSystem
  | fileSystemLoop
  | staleFileHandle
  | invalidInput
  | invalidData
  | timedOut
  | writeZero
  | storageFull
  | notSeekable
  | quotaExceeded
  | fileTooLarge
  | resourceBusy
  | executableFileBusy
  | deadlock
  | crossesDevices
  | tooManyLinks
  | invalidFilename
  | argumentListTooLong
  | interrupted
  | unsupported
  | unexpectedEnd
  | outOfMemory
  | inProgress
  | other
  | uncategorized
  deriving DecidableEq

/-- A failure kind in words. -/
def FaultKind.description : FaultKind → String
  | .notFound => "entity not found"
  | .permissionDenied => "permission denied"
  | .connectionRefused => "connection refused"
  | .connectionReset => "connection reset"
  | .hostUnreachable => "host unreachable"
  | .networkUnreachable => "network unreachable"
  | .connectionAborted => "connection aborted"
  | .notConnected => "not connected"
  | .addressInUse => "address in use"
  | .addressNotAvailable => "address not available"
  | .networkDown => "network down"
  | .brokenPipe => "broken pipe"
  | .alreadyExists => "entity already exists"
  | .wouldBlock => "operation would block"
  | .notADirectory => "not a directory"
  | .isADirectory => "is a directory"
  | .directoryNotEmpty => "directory not empty"
  | .readOnlyFileSystem => "read-only filesystem or storage medium"
  | .fileSystemLoop => "filesystem loop or indirection limit (e.g. symlink loop)"
  | .staleFileHandle => "stale network file handle"
  | .invalidInput => "invalid input parameter"
  | .invalidData => "invalid data"
  | .timedOut => "timed out"
  | .writeZero => "write zero"
  | .storageFull => "no storage space"
  | .notSeekable => "seek on unseekable file"
  | .quotaExceeded => "quota exceeded"
  | .fileTooLarge => "file too large"
  | .resourceBusy => "resource busy"
  | .executableFileBusy => "executable file busy"
  | .deadlock => "deadlock"
  | .crossesDevices => "cross-device link or rename"
  | .tooManyLinks => "too many links"
  | .invalidFilename => "invalid filename"
  | .argumentListTooLong => "argument list too long"
  | .interrupted => "operation interrupted"
  | .unsupported => "unsupported"
  | .unexpectedEnd => "unexpected end of file"
  | .outOfMemory => "out of memory"
  | .inProgress => "in progress"
  | .other => "other error"
  | .uncategorized => "uncategorized error"

/-- The system's text for each error number, from zero on; `none` where the system has no text. -/
def systemTexts : List (Option String) :=
  [some "Success", some "Operation not permitted", some "No such file or directory",
   some "No such process", some "Interrupted system call", some "Input/output error",
   some "No such device or address", some "Argument list too long", some "Exec format error",
   some "Bad file descriptor", some "No child processes", some "Resource temporarily unavailable",
   some "Cannot allocate memory", some "Permission denied", some "Bad address",
   some "Block device required", some "Device or resource busy", some "File exists",
   some "Invalid cross-device link", some "No such device", some "Not a directory",
   some "Is a directory", some "Invalid argument", some "Too many open files in system",
   some "Too many open files", some "Inappropriate ioctl for device", some "Text file busy",
   some "File too large", some "No space left on device", some "Illegal seek",
   some "Read-only file system", some "Too many links", some "Broken pipe",
   some "Numerical argument out of domain", some "Numerical result out of range",
   some "Resource deadlock avoided", some "File name too long", some "No locks available",
   some "Function not implemented", some "Directory not empty",
   some "Too many levels of symbolic links", none, some "No message of desired type",
   some "Identifier removed", some "Channel number out of range", some "Level 2 not synchronized",
   some "Level 3 halted", some "Level 3 reset", some "Link number out of range",
   some "Protocol driver not attached", some "No CSI structure available", some "Level 2 halted",
   some "Invalid exchange", some "Invalid request descriptor", some "Exchange full",
   some "No anode", some "Invalid request code", some "Invalid slot", none,
   some "Bad font file format", some "Device not a stream", some "No data available",
   some "Timer expired", some "Out of streams resources", some "Machine is not on the network",
   some "Package not installed", some "Object is remote", some "Link has been severed",
   some "Advertise error", some "Srmount error", some "Communication error on send",
   some "Protocol error", some "Multihop attempted", some "RFS specific error", some "Bad message",
   some "Value too large for defined data type", some "Name not unique on network",
   some "File descriptor in bad state", some "Remote address changed",
   some "Can not access a needed shared library", some "Accessing a corrupted shared library",
   some ".lib section in a.out corrupted", some "Attempting to link in too many shared libraries",
   some "Cannot exec a shared library directly",
   some "Invalid or incomplete multibyte or wide character",
   some "Interrupted system call should be restarted", some "Streams pipe error",
   some "Too many users", some "Socket operation on non-socket",
   some "Destination address required", some "Message too long",
   some "Protocol wrong type for socket", some "Protocol not available",
   some "Protocol not supported", some "Socket type not supported", some "Operation not supported",
   some "Protocol family not supported", some "Address family not supported by protocol",
   some "Address already in use", some "Cannot assign requested address", some "Network is down",
   some "Network is unreachable", some "Network dropped connection on reset",
   some "Software caused connection abort", some "Connection reset by peer",
   some "No buffer space available", some "Transport endpoint is already connected",
   some "Transport endpoint is not connected",
   some "Cannot send after transport endpoint shutdown", some "Too many references: cannot splice",
   some "Connection timed out", some "Connection refused", some "Host is down",
   some "No route to host", some "Operation already in progress", some "Operation now in progress",
   some "Stale file handle", some "Structure needs cleaning", some "Not a XENIX named type file",
   some "No XENIX semaphores available", some "Is a named type file", some "Remote I/O error",
   some "Disk quota exceeded", some "No medium found", some "Wrong medium type",
   some "Operation canceled", some "Required key not available", some "Key has expired",
   some "Key has been revoked", some "Key was rejected by service", some "Owner died",
   some "State not recoverable", some "Operation not possible due to RF-kill",
   some "Memory page has hardware error"]

/-- The system's text for an error number. -/
def systemText (number : Nat) : String :=
  match systemTexts[number]? with
  | some (some text) => text
  | _ => s!"Unknown error {number}"

/-- The kind of failure that an error number reports. -/
def FaultKind.ofNumber : Nat → FaultKind
  | 1 => .permissionDenied
  | 2 => .notFound
  | 4 => .interrupted
  | 7 => .argumentListTooLong
  | 11 => .wouldBlock
  | 12 => .outOfMemory
  | 13 => .permissionDenied
  | 16 => .resourceBusy
  | 17 => .alreadyExists
  | 18 => .crossesDevices
  | 20 => .notADirectory
  | 21 => .isADirectory
  | 22 => .invalidInput
  | 26 => .executableFileBusy
  | 27 => .fileTooLarge
  | 28 => .storageFull
  | 29 => .notSeekable
  | 30 => .readOnlyFileSystem
  | 31 => .tooManyLinks
  | 32 => .brokenPipe
  | 35 => .deadlock
  | 36 => .invalidFilename
  | 38 => .unsupported
  | 39 => .directoryNotEmpty
  | 40 => .fileSystemLoop
  | 95 => .unsupported
  | 98 => .addressInUse
  | 99 => .addressNotAvailable
  | 100 => .networkDown
  | 101 => .networkUnreachable
  | 103 => .connectionAborted
  | 104 => .connectionReset
  | 107 => .notConnected
  | 110 => .timedOut
  | 111 => .connectionRefused
  | 113 => .hostUnreachable
  | 115 => .inProgress
  | 116 => .staleFileHandle
  | 122 => .quotaExceeded
  | _ => .uncategorized

/-- A failure to read, write, open or make something. -/
inductive Fault
  /-- The system reports an error by its number. -/
  | system (number : Nat)
  /-- A failure of which only the kind is known. -/
  | bare (kind : FaultKind)
  /-- A failure of a kind, worded by whoever found it. -/
  | stated (kind : FaultKind) (text : String)
  deriving DecidableEq

/-- The kind of a failure. -/
def Fault.kind : Fault → FaultKind
  | .system number => .ofNumber number
  | .bare kind => kind
  | .stated kind _ => kind

/-- A failure in words. -/
def Fault.message : Fault → String
  | .system number => s!"{systemText number} (os error {number})"
  | .bare kind => kind.description
  | .stated _ text => text

/-- Whether a failed operation was merely interrupted and is to be tried again. -/
def Fault.isInterruption (f : Fault) : Bool :=
  f.kind = .interrupted

namespace Fault

/-- No entry under that name. -/
def noSuchEntry : Fault := .system 2

/-- An entry of that name is there already. -/
def entryExists : Fault := .system 17

/-- A path goes through something that is no directory. -/
def notADirectory : Fault := .system 20

/-- A directory stands where a file is needed. -/
def isADirectory : Fault := .system 21

/-- A name or path is longer than the system allows. -/
def nameTooLong : Fault := .system 36

/-- No room is left on the device. -/
def noSpace : Fault := .system 28

/-- A path holds a NUL character. -/
def nulInPath : Fault :=
  .stated .invalidInput "file name contained an unexpected NUL byte"

/-- Octets that were to be text are not UTF-8. -/
def notUtf8 : Fault :=
  .stated .invalidData "stream did not contain valid UTF-8"

/-- A writer takes no more octets without saying why. -/
def shortWrite : Fault :=
  .stated .writeZero "failed to write whole buffer"

end Fault

end OperatorNames
