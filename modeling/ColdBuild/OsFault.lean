/-!
# Faults of the operating system

A call to the system fails with an error number, or is refused before it is made, with a text of
its own. The texts of error numbers are those of the C library in its default locale.
-/

namespace ColdBuild

/-- Why a call to the operating system failed. -/
inductive OsFault where
  | number (errno : Int)
  | refused (text : String)
  deriving DecidableEq, Repr

namespace OsFault

/-- The texts of the error numbers from zero on; an unassigned number has none. -/
def texts : List String :=
  [
    "Success", "Operation not permitted", "No such file or directory", "No such process",
    "Interrupted system call", "Input/output error", "No such device or address",
    "Argument list too long", "Exec format error", "Bad file descriptor", "No child processes",
    "Resource temporarily unavailable", "Cannot allocate memory", "Permission denied",
    "Bad address", "Block device required", "Device or resource busy", "File exists",
    "Invalid cross-device link", "No such device", "Not a directory", "Is a directory",
    "Invalid argument", "Too many open files in system", "Too many open files",
    "Inappropriate ioctl for device", "Text file busy", "File too large",
    "No space left on device", "Illegal seek", "Read-only file system", "Too many links",
    "Broken pipe", "Numerical argument out of domain", "Numerical result out of range",
    "Resource deadlock avoided", "File name too long", "No locks available",
    "Function not implemented", "Directory not empty", "Too many levels of symbolic links", "",
    "No message of desired type", "Identifier removed", "Channel number out of range",
    "Level 2 not synchronized", "Level 3 halted", "Level 3 reset", "Link number out of range",
    "Protocol driver not attached", "No CSI structure available", "Level 2 halted",
    "Invalid exchange", "Invalid request descriptor", "Exchange full", "No anode",
    "Invalid request code", "Invalid slot", "", "Bad font file format", "Device not a stream",
    "No data available", "Timer expired", "Out of streams resources",
    "Machine is not on the network", "Package not installed", "Object is remote",
    "Link has been severed", "Advertise error", "Srmount error", "Communication error on send",
    "Protocol error", "Multihop attempted", "RFS specific error", "Bad message",
    "Value too large for defined data type", "Name not unique on network",
    "File descriptor in bad state", "Remote address changed",
    "Can not access a needed shared library", "Accessing a corrupted shared library",
    ".lib section in a.out corrupted", "Attempting to link in too many shared libraries",
    "Cannot exec a shared library directly", "Invalid or incomplete multibyte or wide character",
    "Interrupted system call should be restarted", "Streams pipe error", "Too many users",
    "Socket operation on non-socket", "Destination address required", "Message too long",
    "Protocol wrong type for socket", "Protocol not available", "Protocol not supported",
    "Socket type not supported", "Operation not supported", "Protocol family not supported",
    "Address family not supported by protocol", "Address already in use",
    "Cannot assign requested address", "Network is down", "Network is unreachable",
    "Network dropped connection on reset", "Software caused connection abort",
    "Connection reset by peer", "No buffer space available",
    "Transport endpoint is already connected", "Transport endpoint is not connected",
    "Cannot send after transport endpoint shutdown", "Too many references: cannot splice",
    "Connection timed out", "Connection refused", "Host is down", "No route to host",
    "Operation already in progress", "Operation now in progress", "Stale file handle",
    "Structure needs cleaning", "Not a XENIX named type file", "No XENIX semaphores available",
    "Is a named type file", "Remote I/O error", "Disk quota exceeded", "No medium found",
    "Wrong medium type", "Operation canceled", "Required key not available", "Key has expired",
    "Key has been revoked", "Key was rejected by service", "Owner died", "State not recoverable",
    "Operation not possible due to RF-kill", "Memory page has hardware error"]

def textOf (errno : Int) : String :=
  let text := if errno < 0 then "" else texts.getD errno.toNat ""
  if text = "" then s!"Unknown error {errno}" else text

def message : OsFault → String
  | .number errno => s!"{textOf errno} (os error {errno})"
  | .refused text => text

def noSuchFile : OsFault := .number 2
def badExecutable : OsFault := .number 8
def badDescriptor : OsFault := .number 9
def permissionDenied : OsFault := .number 13
def notPermitted : OsFault := .number 1
def busy : OsFault := .number 16
def fileExists : OsFault := .number 17
def notADirectory : OsFault := .number 20
def isADirectory : OsFault := .number 21
def invalidArgument : OsFault := .number 22
def noSpaceLeft : OsFault := .number 28
def nameTooLong : OsFault := .number 36
def notEmpty : OsFault := .number 39
def tooManyLinks : OsFault := .number 40

/-- An argument of a child process may not hold a NUL byte. -/
def nulInArgument : OsFault := .refused "nul byte found in provided data"

/-- A name in the file system may not hold a NUL byte. -/
def nulInFileName : OsFault := .refused "file name contained an unexpected NUL byte"

end OsFault

end ColdBuild
