import NetNode.Os.Kind

/-!
# Operating-system error numbers

The text of each error number, as the system's C library describes it, and the kind each
number falls into. Numbers without a text (those above 133, below 0, and the unused 41 and
58) read `Unknown error N`.
-/

namespace NetNode.Os

/-- Texts of the error numbers 0 to 133; an empty text marks an unused number. -/
def errnoTexts : Array String := #[
  "Success",
  "Operation not permitted",
  "No such file or directory",
  "No such process",
  "Interrupted system call",
  "Input/output error",
  "No such device or address",
  "Argument list too long",
  "Exec format error",
  "Bad file descriptor",
  "No child processes",
  "Resource temporarily unavailable",
  "Cannot allocate memory",
  "Permission denied",
  "Bad address",
  "Block device required",
  "Device or resource busy",
  "File exists",
  "Invalid cross-device link",
  "No such device",
  "Not a directory",
  "Is a directory",
  "Invalid argument",
  "Too many open files in system",
  "Too many open files",
  "Inappropriate ioctl for device",
  "Text file busy",
  "File too large",
  "No space left on device",
  "Illegal seek",
  "Read-only file system",
  "Too many links",
  "Broken pipe",
  "Numerical argument out of domain",
  "Numerical result out of range",
  "Resource deadlock avoided",
  "File name too long",
  "No locks available",
  "Function not implemented",
  "Directory not empty",
  "Too many levels of symbolic links",
  "",
  "No message of desired type",
  "Identifier removed",
  "Channel number out of range",
  "Level 2 not synchronized",
  "Level 3 halted",
  "Level 3 reset",
  "Link number out of range",
  "Protocol driver not attached",
  "No CSI structure available",
  "Level 2 halted",
  "Invalid exchange",
  "Invalid request descriptor",
  "Exchange full",
  "No anode",
  "Invalid request code",
  "Invalid slot",
  "",
  "Bad font file format",
  "Device not a stream",
  "No data available",
  "Timer expired",
  "Out of streams resources",
  "Machine is not on the network",
  "Package not installed",
  "Object is remote",
  "Link has been severed",
  "Advertise error",
  "Srmount error",
  "Communication error on send",
  "Protocol error",
  "Multihop attempted",
  "RFS specific error",
  "Bad message",
  "Value too large for defined data type",
  "Name not unique on network",
  "File descriptor in bad state",
  "Remote address changed",
  "Can not access a needed shared library",
  "Accessing a corrupted shared library",
  ".lib section in a.out corrupted",
  "Attempting to link in too many shared libraries",
  "Cannot exec a shared library directly",
  "Invalid or incomplete multibyte or wide character",
  "Interrupted system call should be restarted",
  "Streams pipe error",
  "Too many users",
  "Socket operation on non-socket",
  "Destination address required",
  "Message too long",
  "Protocol wrong type for socket",
  "Protocol not available",
  "Protocol not supported",
  "Socket type not supported",
  "Operation not supported",
  "Protocol family not supported",
  "Address family not supported by protocol",
  "Address already in use",
  "Cannot assign requested address",
  "Network is down",
  "Network is unreachable",
  "Network dropped connection on reset",
  "Software caused connection abort",
  "Connection reset by peer",
  "No buffer space available",
  "Transport endpoint is already connected",
  "Transport endpoint is not connected",
  "Cannot send after transport endpoint shutdown",
  "Too many references: cannot splice",
  "Connection timed out",
  "Connection refused",
  "Host is down",
  "No route to host",
  "Operation already in progress",
  "Operation now in progress",
  "Stale file handle",
  "Structure needs cleaning",
  "Not a XENIX named type file",
  "No XENIX semaphores available",
  "Is a named type file",
  "Remote I/O error",
  "Disk quota exceeded",
  "No medium found",
  "Wrong medium type",
  "Operation canceled",
  "Required key not available",
  "Key has expired",
  "Key has been revoked",
  "Key was rejected by service",
  "Owner died",
  "State not recoverable",
  "Operation not possible due to RF-kill",
  "Memory page has hardware error"
]

/-- The text of an error number. -/
def errnoText (code : Int) : String :=
  let known := if 0 ≤ code then (errnoTexts[code.toNat]?).getD "" else ""
  if known.isEmpty then s!"Unknown error {code}" else known

/-- Error numbers the library tells apart. -/
def EPERM : Int := 1
def ENOENT : Int := 2
def EINTR : Int := 4
def EBADF : Int := 9
def EAGAIN : Int := 11
def ENOMEM : Int := 12
def EACCES : Int := 13
def ENODEV : Int := 19
def ENOTDIR : Int := 20
def EISDIR : Int := 21
def EINVAL : Int := 22
def ENFILE : Int := 23
def EMFILE : Int := 24
def EPIPE : Int := 32
def ENOTSOCK : Int := 88
def EADDRINUSE : Int := 98
def EADDRNOTAVAIL : Int := 99
def ENETDOWN : Int := 100
def ENETUNREACH : Int := 101
def ENOBUFS : Int := 105
def ENOTCONN : Int := 107
def ESHUTDOWN : Int := 108
def ECANCELED : Int := 125

/-- The kind an error number falls into. -/
def kindOfErrno (code : Int) : ErrorKind :=
  match code with
  | 7 => .argumentListTooLong
  | 98 => .addrInUse
  | 99 => .addrNotAvailable
  | 16 => .resourceBusy
  | 103 => .connectionAborted
  | 111 => .connectionRefused
  | 104 => .connectionReset
  | 35 => .deadlock
  | 122 => .quotaExceeded
  | 17 => .alreadyExists
  | 27 => .fileTooLarge
  | 113 => .hostUnreachable
  | 4 => .interrupted
  | 22 => .invalidInput
  | 21 => .isADirectory
  | 40 => .filesystemLoop
  | 2 => .notFound
  | 12 => .outOfMemory
  | 28 => .storageFull
  | 38 => .unsupported
  | 31 => .tooManyLinks
  | 36 => .invalidFilename
  | 100 => .networkDown
  | 101 => .networkUnreachable
  | 107 => .notConnected
  | 20 => .notADirectory
  | 39 => .directoryNotEmpty
  | 32 => .brokenPipe
  | 30 => .readOnlyFilesystem
  | 29 => .notSeekable
  | 116 => .staleNetworkFileHandle
  | 110 => .timedOut
  | 26 => .executableFileBusy
  | 18 => .crossesDevices
  | 115 => .inProgress
  | 13 => .permissionDenied
  | 1 => .permissionDenied
  | 11 => .wouldBlock
  | _ => .uncategorized

end NetNode.Os
