/-
# Failures

Everything that can stop a request or a run, kept as its cause. The wording of each is in
`Fault.message`, the exit code of the program in `Fault.exitCode`.

Key definitions: `FileFault`, `Fault`, `Fault.message`, `Fault.causes`,
`Fault.report`, `Fault.exitCode`.
-/
import SchemaMap.Text.Basic

namespace SchemaMap

/-- Why the file system refused an operation. -/
inductive FileFault where
  | notFound
  | busy
  | notADirectory
  | isADirectory
  | invalidArgument
  /-- A name of more bytes than a folder can hold, or a path of too many. -/
  | nameTooLong
  /-- A path that no system call can be given. -/
  | zeroInName
  | notUtf8
  /-- Another refusal, in the words of the system. -/
  | other (text : String)
deriving DecidableEq, Repr, Inhabited

/-- The words of the system for the numbers from one on. -/
def FileFault.systemWords : List String :=
  ["Operation not permitted", "No such file or directory", "No such process",
   "Interrupted system call", "Input/output error", "No such device or address",
   "Argument list too long", "Exec format error", "Bad file descriptor", "No child processes",
   "Resource temporarily unavailable", "Cannot allocate memory", "Permission denied",
   "Bad address", "Block device required", "Device or resource busy", "File exists",
   "Invalid cross-device link", "No such device", "Not a directory", "Is a directory",
   "Invalid argument", "Too many open files in system", "Too many open files",
   "Inappropriate ioctl for device", "Text file busy", "File too large",
   "No space left on device", "Illegal seek", "Read-only file system", "Too many links",
   "Broken pipe", "Numerical argument out of domain", "Numerical result out of range",
   "Resource deadlock avoided", "File name too long", "No locks available",
   "Function not implemented", "Directory not empty", "Too many levels of symbolic links",
   "Unknown error 41", "No message of desired type", "Identifier removed",
   "Channel number out of range", "Level 2 not synchronized", "Level 3 halted", "Level 3 reset",
   "Link number out of range", "Protocol driver not attached", "No CSI structure available",
   "Level 2 halted", "Invalid exchange", "Invalid request descriptor", "Exchange full",
   "No anode", "Invalid request code", "Invalid slot", "Unknown error 58",
   "Bad font file format", "Device not a stream", "No data available", "Timer expired",
   "Out of streams resources", "Machine is not on the network", "Package not installed",
   "Object is remote", "Link has been severed", "Advertise error", "Srmount error",
   "Communication error on send", "Protocol error", "Multihop attempted", "RFS specific error",
   "Bad message", "Value too large for defined data type", "Name not unique on network",
   "File descriptor in bad state", "Remote address changed",
   "Can not access a needed shared library", "Accessing a corrupted shared library",
   ".lib section in a.out corrupted", "Attempting to link in too many shared libraries",
   "Cannot exec a shared library directly", "Invalid or incomplete multibyte or wide character",
   "Interrupted system call should be restarted", "Streams pipe error", "Too many users",
   "Socket operation on non-socket", "Destination address required", "Message too long",
   "Protocol wrong type for socket", "Protocol not available", "Protocol not supported",
   "Socket type not supported", "Operation not supported", "Protocol family not supported",
   "Address family not supported by protocol", "Address already in use",
   "Cannot assign requested address", "Network is down", "Network is unreachable",
   "Network dropped connection on reset", "Software caused connection abort",
   "Connection reset by peer", "No buffer space available",
   "Transport endpoint is already connected", "Transport endpoint is not connected",
   "Cannot send after transport endpoint shutdown", "Too many references: cannot splice",
   "Connection timed out", "Connection refused", "Host is down", "No route to host",
   "Operation already in progress", "Operation now in progress", "Stale file handle",
   "Structure needs cleaning", "Not a XENIX named type file", "No XENIX semaphores available",
   "Is a named type file", "Remote I/O error", "Disk quota exceeded", "No medium found",
   "Wrong medium type", "Operation canceled", "Required key not available", "Key has expired",
   "Key has been revoked", "Key was rejected by service", "Owner died", "State not recoverable",
   "Operation not possible due to RF-kill", "Memory page has hardware error"]

/-- A number of the system with its words. -/
def FileFault.systemText (n : Nat) : String :=
  let words :=
    if n = 0 then "Success"
    else (systemWords[n - 1]?).getD ("Unknown error " ++ toString n)
  words ++ " (os error " ++ toString n ++ ")"

/-- The wording of a refusal of the file system. -/
def FileFault.message : FileFault → String
  | .notFound => systemText 2
  | .busy => systemText 16
  | .notADirectory => systemText 20
  | .isADirectory => systemText 21
  | .invalidArgument => systemText 22
  | .nameTooLong => systemText 36
  | .zeroInName => "file name contained an unexpected NUL byte"
  | .notUtf8 => "stream did not contain valid UTF-8"
  | .other text => text

/-- The refusal with a number of the system. -/
def FileFault.ofNumber : Nat → FileFault
  | 2 => .notFound
  | 16 => .busy
  | 20 => .notADirectory
  | 21 => .isADirectory
  | 22 => .invalidArgument
  | 36 => .nameTooLong
  | n => .other (systemText n)

/-- Why a request or a run failed. -/
inductive Fault where
  /-- The request list or the options are unreadable or invalid. -/
  | configuration (text : String)
  /-- A script cannot be read. -/
  | sourceRead (path : String) (cause : FileFault)
  /-- A script holds text that is no statement, or a table that cannot be read. -/
  | malformed (text : String)
  /-- A script declares no schema where one is needed. -/
  | schemaUndetermined
  /-- A driver identifier outside the known ones. -/
  | unknownDriver (id : String)
  /-- A name cannot be written into a generated file, or a generated file cannot be read. -/
  | render (text : String)
  /-- A generated file cannot be written. -/
  | write (path : String) (cause : FileFault)
  /-- Some requests of a run failed. -/
  | requestsFailed (failed total : Nat)
  /-- The file system refused an operation outside a request. -/
  | io (cause : FileFault)
  /-- A text is not the expected JSON. -/
  | json (text : String)
  /-- A text is not the expected YAML. -/
  | yaml (text : String)
  /-- The run was cancelled. -/
  | cancelled
deriving DecidableEq, Repr, Inhabited

namespace Fault

/-- The wording of a failure. -/
def message : Fault → String
  | .configuration text => "Configuration error: " ++ text
  | .sourceRead path cause => "Failed to read DDL file " ++ path ++ ": " ++ cause.message
  | .malformed text => "Malformed DDL: " ++ text
  | .schemaUndetermined => "Unable to determine schema: no CREATE SCHEMA statement found"
  | .unknownDriver id =>
    "Unknown driver '" ++ id ++ "' (expected one of: postgres, mysql, sqlserver)"
  | .render text => "Render error: " ++ text
  | .write path cause => "Failed to write " ++ path ++ ": " ++ cause.message
  | .requestsFailed failed total =>
    toString failed ++ " of " ++ toString total ++ " requests failed"
  | .io cause => "IO error: " ++ cause.message
  | .json text => "JSON error: " ++ text
  | .yaml text => "YAML error: " ++ text
  | .cancelled => "Generation cancelled"

/-- The failures below a failure, from the nearest down. -/
def causes : Fault → List String
  | .sourceRead _ cause | .write _ cause | .io cause => [cause.message]
  | .json text | .yaml text => [text]
  | _ => []

/-- The numbered list of causes. -/
def causeLines : Nat → List String → String
  | _, [] => ""
  | n, c :: cs => "\nCaused by:\n  " ++ toString n ++ ": " ++ c ++ causeLines (n + 1) cs

/-- A failure with its causes, as it is reported at the end of a run. -/
def report (f : Fault) : String :=
  "Error: " ++ f.message ++ "\n" ++ causeLines 1 f.causes

/-- The exit code of a program that ends with a failure. -/
def exitCode : Fault → Nat
  | .configuration _ | .json _ | .yaml _ => 1
  | .io _ => 7
  | .cancelled => 130
  | _ => 2

end Fault
end SchemaMap
