/-!
# Error numbers of the operating system

The text for each error number, and the form in which an error of the operating
system is reported: the text and the number.
-/

namespace GpuTelemetry.Platform

/-- The texts of the error numbers from 0 on. Some numbers have none. -/
def errnoTexts : List (Option String) :=
  [some "Success", some "Operation not permitted", some "No such file or directory",
    some "No such process", some "Interrupted system call", some "Input/output error",
    some "No such device or address", some "Argument list too long", some "Exec format error",
    some "Bad file descriptor", some "No child processes",
    some "Resource temporarily unavailable", some "Cannot allocate memory",
    some "Permission denied", some "Bad address", some "Block device required",
    some "Device or resource busy", some "File exists", some "Invalid cross-device link",
    some "No such device", some "Not a directory", some "Is a directory", some "Invalid argument",
    some "Too many open files in system", some "Too many open files",
    some "Inappropriate ioctl for device", some "Text file busy", some "File too large",
    some "No space left on device", some "Illegal seek", some "Read-only file system",
    some "Too many links", some "Broken pipe", some "Numerical argument out of domain",
    some "Numerical result out of range", some "Resource deadlock avoided",
    some "File name too long", some "No locks available", some "Function not implemented",
    some "Directory not empty", some "Too many levels of symbolic links", none,
    some "No message of desired type", some "Identifier removed",
    some "Channel number out of range", some "Level 2 not synchronized", some "Level 3 halted",
    some "Level 3 reset", some "Link number out of range", some "Protocol driver not attached",
    some "No CSI structure available", some "Level 2 halted", some "Invalid exchange",
    some "Invalid request descriptor", some "Exchange full", some "No anode",
    some "Invalid request code", some "Invalid slot", none, some "Bad font file format",
    some "Device not a stream", some "No data available", some "Timer expired",
    some "Out of streams resources", some "Machine is not on the network",
    some "Package not installed", some "Object is remote", some "Link has been severed",
    some "Advertise error", some "Srmount error", some "Communication error on send",
    some "Protocol error", some "Multihop attempted", some "RFS specific error",
    some "Bad message", some "Value too large for defined data type",
    some "Name not unique on network", some "File descriptor in bad state",
    some "Remote address changed", some "Can not access a needed shared library",
    some "Accessing a corrupted shared library", some ".lib section in a.out corrupted",
    some "Attempting to link in too many shared libraries",
    some "Cannot exec a shared library directly",
    some "Invalid or incomplete multibyte or wide character",
    some "Interrupted system call should be restarted", some "Streams pipe error",
    some "Too many users", some "Socket operation on non-socket",
    some "Destination address required", some "Message too long",
    some "Protocol wrong type for socket", some "Protocol not available",
    some "Protocol not supported", some "Socket type not supported",
    some "Operation not supported", some "Protocol family not supported",
    some "Address family not supported by protocol", some "Address already in use",
    some "Cannot assign requested address", some "Network is down", some "Network is unreachable",
    some "Network dropped connection on reset", some "Software caused connection abort",
    some "Connection reset by peer", some "No buffer space available",
    some "Transport endpoint is already connected", some "Transport endpoint is not connected",
    some "Cannot send after transport endpoint shutdown",
    some "Too many references: cannot splice", some "Connection timed out",
    some "Connection refused", some "Host is down", some "No route to host",
    some "Operation already in progress", some "Operation now in progress",
    some "Stale file handle", some "Structure needs cleaning", some "Not a XENIX named type file",
    some "No XENIX semaphores available", some "Is a named type file", some "Remote I/O error",
    some "Disk quota exceeded", some "No medium found", some "Wrong medium type",
    some "Operation canceled", some "Required key not available", some "Key has expired",
    some "Key has been revoked", some "Key was rejected by service", some "Owner died",
    some "State not recoverable", some "Operation not possible due to RF-kill",
    some "Memory page has hardware error"]

def errnoText (number : Int) : String :=
  let known :=
    match number with
    | .ofNat n => errnoTexts[n]?.join
    | .negSucc _ => none
  known.getD ("Unknown error " ++ toString number)

/-- An error of the operating system as it is reported. -/
def errorText (number : Int) : String :=
  errnoText number ++ " (os error " ++ toString number ++ ")"

/-- The number for a path that leads nowhere. -/
def noEntry : Int := 2

/-- The number for a path that goes on after a file, or that should lead to a directory. -/
def notDirectory : Int := 20

/-- The number for a path on which too many links have to be followed. -/
def linkLoop : Int := 40

end GpuTelemetry.Platform
