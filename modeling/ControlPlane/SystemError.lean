/-!
# Errors of the operating system and of streams

An operation on a file, a process or a connection fails either with a numbered error of the
operating system, which has a fixed text, or with an error of a stream, which has a text of its own.

## Main definitions

- `SystemError`: the errors.
- `SystemError.message`: their texts.
-/

namespace ControlPlane

/-- The class of an error that a stream reports itself. -/
inductive SystemError.Kind
  | invalidData
  | invalidInput
  | other
deriving DecidableEq

/-- An error of the operating system or of a stream. -/
inductive SystemError
  /-- A numbered error of the operating system. -/
  | os (code : Int32)
  /-- An error of a stream, with its text. -/
  | stream (kind : SystemError.Kind) (text : String)
deriving DecidableEq

namespace SystemError

/-- No such file or directory. -/
def notFound : SystemError := .os 2
/-- Permission denied. -/
def permissionDenied : SystemError := .os 13
/-- File exists. -/
def alreadyExists : SystemError := .os 17
/-- No such device. -/
def noDevice : SystemError := .os 19
/-- Not a directory. -/
def notDirectory : SystemError := .os 20
/-- Is a directory. -/
def isDirectory : SystemError := .os 21
/-- Invalid argument. -/
def invalidArgument : SystemError := .os 22
/-- Address already in use. -/
def addressInUse : SystemError := .os 98
/-- Cannot assign requested address. -/
def addressNotAvailable : SystemError := .os 99
/-- Network is unreachable. -/
def networkUnreachable : SystemError := .os 101

/-- A name holds the character that ends every name. -/
def nulInside : SystemError := .stream .invalidInput "file name contained an unexpected NUL byte"

/-- The octets read are no text. -/
def invalidText : SystemError := .stream .invalidData "stream did not contain valid UTF-8"

/-- The texts of the numbered errors. -/
def osTexts : List (Int32 × String) :=
  [(0, "Success"), (1, "Operation not permitted"), (2, "No such file or directory"),
   (3, "No such process"), (4, "Interrupted system call"), (5, "Input/output error"),
   (6, "No such device or address"), (7, "Argument list too long"), (8, "Exec format error"),
   (9, "Bad file descriptor"), (10, "No child processes"), (11, "Resource temporarily unavailable"),
   (12, "Cannot allocate memory"), (13, "Permission denied"), (14, "Bad address"),
   (15, "Block device required"), (16, "Device or resource busy"), (17, "File exists"),
   (18, "Invalid cross-device link"), (19, "No such device"), (20, "Not a directory"),
   (21, "Is a directory"), (22, "Invalid argument"), (23, "Too many open files in system"),
   (24, "Too many open files"), (25, "Inappropriate ioctl for device"), (26, "Text file busy"),
   (27, "File too large"), (28, "No space left on device"), (29, "Illegal seek"),
   (30, "Read-only file system"), (31, "Too many links"), (32, "Broken pipe"),
   (33, "Numerical argument out of domain"), (34, "Numerical result out of range"),
   (35, "Resource deadlock avoided"), (36, "File name too long"), (37, "No locks available"),
   (38, "Function not implemented"), (39, "Directory not empty"),
   (40, "Too many levels of symbolic links"), (42, "No message of desired type"),
   (43, "Identifier removed"), (44, "Channel number out of range"),
   (45, "Level 2 not synchronized"), (46, "Level 3 halted"), (47, "Level 3 reset"),
   (48, "Link number out of range"), (49, "Protocol driver not attached"),
   (50, "No CSI structure available"), (51, "Level 2 halted"), (52, "Invalid exchange"),
   (53, "Invalid request descriptor"), (54, "Exchange full"), (55, "No anode"),
   (56, "Invalid request code"), (57, "Invalid slot"), (59, "Bad font file format"),
   (60, "Device not a stream"), (61, "No data available"), (62, "Timer expired"),
   (63, "Out of streams resources"), (64, "Machine is not on the network"),
   (65, "Package not installed"), (66, "Object is remote"), (67, "Link has been severed"),
   (68, "Advertise error"), (69, "Srmount error"), (70, "Communication error on send"),
   (71, "Protocol error"), (72, "Multihop attempted"), (73, "RFS specific error"),
   (74, "Bad message"), (75, "Value too large for defined data type"),
   (76, "Name not unique on network"), (77, "File descriptor in bad state"),
   (78, "Remote address changed"), (79, "Can not access a needed shared library"),
   (80, "Accessing a corrupted shared library"), (81, ".lib section in a.out corrupted"),
   (82, "Attempting to link in too many shared libraries"),
   (83, "Cannot exec a shared library directly"),
   (84, "Invalid or incomplete multibyte or wide character"),
   (85, "Interrupted system call should be restarted"), (86, "Streams pipe error"),
   (87, "Too many users"), (88, "Socket operation on non-socket"),
   (89, "Destination address required"), (90, "Message too long"),
   (91, "Protocol wrong type for socket"), (92, "Protocol not available"),
   (93, "Protocol not supported"), (94, "Socket type not supported"),
   (95, "Operation not supported"), (96, "Protocol family not supported"),
   (97, "Address family not supported by protocol"), (98, "Address already in use"),
   (99, "Cannot assign requested address"), (100, "Network is down"),
   (101, "Network is unreachable"), (102, "Network dropped connection on reset"),
   (103, "Software caused connection abort"), (104, "Connection reset by peer"),
   (105, "No buffer space available"), (106, "Transport endpoint is already connected"),
   (107, "Transport endpoint is not connected"),
   (108, "Cannot send after transport endpoint shutdown"),
   (109, "Too many references: cannot splice"), (110, "Connection timed out"),
   (111, "Connection refused"), (112, "Host is down"), (113, "No route to host"),
   (114, "Operation already in progress"), (115, "Operation now in progress"),
   (116, "Stale file handle"), (117, "Structure needs cleaning"),
   (118, "Not a XENIX named type file"), (119, "No XENIX semaphores available"),
   (120, "Is a named type file"), (121, "Remote I/O error"), (122, "Disk quota exceeded"),
   (123, "No medium found"), (124, "Wrong medium type"), (125, "Operation canceled"),
   (126, "Required key not available"), (127, "Key has expired"), (128, "Key has been revoked"),
   (129, "Key was rejected by service"), (130, "Owner died"), (131, "State not recoverable"),
   (132, "Operation not possible due to RF-kill"), (133, "Memory page has hardware error")]

/-- The names of the classes of numbered errors. -/
def osKinds : List (Int32 × String) :=
  [(1, "PermissionDenied"), (2, "NotFound"), (4, "Interrupted"), (7, "ArgumentListTooLong"),
   (11, "WouldBlock"), (12, "OutOfMemory"), (13, "PermissionDenied"), (16, "ResourceBusy"),
   (17, "AlreadyExists"), (18, "CrossesDevices"), (20, "NotADirectory"), (21, "IsADirectory"),
   (22, "InvalidInput"), (26, "ExecutableFileBusy"), (27, "FileTooLarge"), (28, "StorageFull"),
   (29, "NotSeekable"), (30, "ReadOnlyFilesystem"), (31, "TooManyLinks"), (32, "BrokenPipe"),
   (35, "Deadlock"), (36, "InvalidFilename"), (38, "Unsupported"), (39, "DirectoryNotEmpty"),
   (40, "FilesystemLoop"), (95, "Unsupported"), (98, "AddrInUse"), (99, "AddrNotAvailable"),
   (100, "NetworkDown"), (101, "NetworkUnreachable"), (103, "ConnectionAborted"),
   (104, "ConnectionReset"), (107, "NotConnected"), (110, "TimedOut"), (111, "ConnectionRefused"),
   (113, "HostUnreachable"), (115, "InProgress"), (116, "StaleNetworkFileHandle"),
   (122, "QuotaExceeded")]

/-- The entry of `code` in a table. -/
def lookup (table : List (Int32 × String)) (code : Int32) (otherwise : String) : String :=
  ((table.find? (·.1 == code)).map (·.2)).getD otherwise

/-- The text of an error without its number. -/
def reason : SystemError → String
  | .os code => lookup osTexts code ("Unknown error " ++ toString code)
  | .stream _ text => text

/-- The text of an error; a numbered one names its number. -/
def message : SystemError → String
  | .os code => reason (.os code) ++ " (os error " ++ toString code ++ ")"
  | .stream _ text => text

/-- The name of the class of an error. -/
def kindName : SystemError → String
  | .os code => lookup osKinds code "Uncategorized"
  | .stream .invalidData _ => "InvalidData"
  | .stream .invalidInput _ => "InvalidInput"
  | .stream .other _ => "Other"

end SystemError

end ControlPlane
