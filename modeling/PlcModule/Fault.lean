/-! Why a file operation or the start of a program fails, and how a message names the reason. -/
namespace PlcModule

/-- What the operating system reports. -/
inductive Errno where
  | notPermitted
  | notFound
  | inputOutput
  | argumentsTooLong
  | notExecutable
  | tryAgain
  | outOfMemory
  | accessDenied
  | busy
  | alreadyExists
  | notADirectory
  | isADirectory
  | invalidArgument
  | tooManyOpenFiles
  | programBusy
  | noSpace
  | readOnly
  | nameTooLong
  | notEmpty
  | linkLoop
  | other (code : Int)
  deriving DecidableEq, Repr

namespace Errno

def code : Errno → Int
  | notPermitted => 1
  | notFound => 2
  | inputOutput => 5
  | argumentsTooLong => 7
  | notExecutable => 8
  | tryAgain => 11
  | outOfMemory => 12
  | accessDenied => 13
  | busy => 16
  | alreadyExists => 17
  | notADirectory => 20
  | isADirectory => 21
  | invalidArgument => 22
  | tooManyOpenFiles => 24
  | programBusy => 26
  | noSpace => 28
  | readOnly => 30
  | nameTooLong => 36
  | notEmpty => 39
  | linkLoop => 40
  | other n => n

/-- The reasons that have a name of their own. -/
def named : List Errno := [
  notPermitted, notFound, inputOutput, argumentsTooLong, notExecutable, tryAgain, outOfMemory,
  accessDenied, busy, alreadyExists, notADirectory, isADirectory, invalidArgument,
  tooManyOpenFiles, programBusy, noSpace, readOnly, nameTooLong, notEmpty, linkLoop]

def ofCode (n : Int) : Errno :=
  (named.find? fun e => e.code == n).getD (other n)

/-- What the reasons without a name of their own are called, by their codes. -/
def otherTexts : List (Int × String) := [
  (3, "No such process"), (4, "Interrupted system call"), (6, "No such device or address"),
  (9, "Bad file descriptor"), (10, "No child processes"), (14, "Bad address"),
  (15, "Block device required"), (18, "Invalid cross-device link"), (19, "No such device"),
  (23, "Too many open files in system"), (25, "Inappropriate ioctl for device"),
  (27, "File too large"), (29, "Illegal seek"), (31, "Too many links"), (32, "Broken pipe"),
  (33, "Numerical argument out of domain"), (34, "Numerical result out of range"),
  (35, "Resource deadlock avoided"), (37, "No locks available"), (38, "Function not implemented"),
  (42, "No message of desired type"), (43, "Identifier removed"),
  (44, "Channel number out of range"), (45, "Level 2 not synchronized"), (46, "Level 3 halted"),
  (47, "Level 3 reset"), (48, "Link number out of range"), (49, "Protocol driver not attached"),
  (50, "No CSI structure available"), (51, "Level 2 halted"), (52, "Invalid exchange"),
  (53, "Invalid request descriptor"), (54, "Exchange full"), (55, "No anode"),
  (56, "Invalid request code"), (57, "Invalid slot"), (59, "Bad font file format"),
  (60, "Device not a stream"), (61, "No data available"), (62, "Timer expired"),
  (63, "Out of streams resources"), (64, "Machine is not on the network"),
  (65, "Package not installed"), (66, "Object is remote"), (67, "Link has been severed"),
  (68, "Advertise error"), (69, "Srmount error"), (70, "Communication error on send"),
  (71, "Protocol error"), (72, "Multihop attempted"), (73, "RFS specific error"),
  (74, "Bad message"), (75, "Value too large for defined data type"),
  (76, "Name not unique on network"), (77, "File descriptor in bad state"),
  (78, "Remote address changed"), (79, "Can not access a needed shared library"),
  (80, "Accessing a corrupted shared library"), (81, ".lib section in a.out corrupted"),
  (82, "Attempting to link in too many shared libraries"),
  (83, "Cannot exec a shared library directly"),
  (84, "Invalid or incomplete multibyte or wide character"),
  (85, "Interrupted system call should be restarted"), (86, "Streams pipe error"),
  (87, "Too many users"), (88, "Socket operation on non-socket"),
  (89, "Destination address required"), (90, "Message too long"),
  (91, "Protocol wrong type for socket"), (92, "Protocol not available"),
  (93, "Protocol not supported"), (94, "Socket type not supported"),
  (95, "Operation not supported"), (96, "Protocol family not supported"),
  (97, "Address family not supported by protocol"), (98, "Address already in use"),
  (99, "Cannot assign requested address"), (100, "Network is down"),
  (101, "Network is unreachable"), (102, "Network dropped connection on reset"),
  (103, "Software caused connection abort"), (104, "Connection reset by peer"),
  (105, "No buffer space available"), (106, "Transport endpoint is already connected"),
  (107, "Transport endpoint is not connected"),
  (108, "Cannot send after transport endpoint shutdown"),
  (109, "Too many references: cannot splice"), (110, "Connection timed out"),
  (111, "Connection refused"), (112, "Host is down"), (113, "No route to host"),
  (114, "Operation already in progress"), (115, "Operation now in progress"),
  (116, "Stale file handle"), (117, "Structure needs cleaning"),
  (118, "Not a XENIX named type file"), (119, "No XENIX semaphores available"),
  (120, "Is a named type file"), (121, "Remote I/O error"), (122, "Disk quota exceeded"),
  (123, "No medium found"), (124, "Wrong medium type"), (125, "Operation canceled"),
  (126, "Required key not available"), (127, "Key has expired"), (128, "Key has been revoked"),
  (129, "Key was rejected by service"), (130, "Owner died"), (131, "State not recoverable"),
  (132, "Operation not possible due to RF-kill"), (133, "Memory page has hardware error")]

def text : Errno → String
  | notPermitted => "Operation not permitted"
  | notFound => "No such file or directory"
  | inputOutput => "Input/output error"
  | argumentsTooLong => "Argument list too long"
  | notExecutable => "Exec format error"
  | tryAgain => "Resource temporarily unavailable"
  | outOfMemory => "Cannot allocate memory"
  | accessDenied => "Permission denied"
  | busy => "Device or resource busy"
  | alreadyExists => "File exists"
  | notADirectory => "Not a directory"
  | isADirectory => "Is a directory"
  | invalidArgument => "Invalid argument"
  | tooManyOpenFiles => "Too many open files"
  | programBusy => "Text file busy"
  | noSpace => "No space left on device"
  | readOnly => "Read-only file system"
  | nameTooLong => "File name too long"
  | notEmpty => "Directory not empty"
  | linkLoop => "Too many levels of symbolic links"
  | other n => (otherTexts.lookup n).getD ("Unknown error " ++ toString n)

theorem code_ofCode (n : Int) : (ofCode n).code = n := by
  unfold ofCode
  cases h : named.find? fun e => e.code == n with
  | none => rfl
  | some e => simpa using List.find?_some h

end Errno

/-- Why an operation on files or programs fails. -/
inductive Fault where
  | system (reason : Errno)
  | notText
  | embeddedNul
  | nulInCommand
  | notARegularFile
  | noModuleWritten
  deriving DecidableEq, Repr

namespace Fault

abbrev notFound : Fault := system .notFound

def message : Fault → String
  | system e => e.text ++ " (os error " ++ toString e.code ++ ")"
  | notText => "stream did not contain valid UTF-8"
  | embeddedNul => "file name contained an unexpected NUL byte"
  | nulInCommand => "nul byte found in provided data"
  | notARegularFile => "the source path is neither a regular file nor a symlink to a regular file"
  | noModuleWritten => "packager reported success but wrote no module"

end Fault
end PlcModule
