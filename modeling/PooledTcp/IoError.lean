import PooledTcp.Text.Quoted
import PooledTcp.Text.Record

/-!
# Failures of input and output

A failure is either reported by the operating system under a number, or raised by the program with a
text of its own. `IoError.kind` says what sort of failure it is, `IoError.message` how it reads to a
user, and `IoError.debugText` how it reads in a report.
-/

namespace PooledTcp

/-- What sort of failure it is. -/
inductive IoKind where
  | notFound | permissionDenied | connectionRefused | connectionReset | hostUnreachable
  | networkUnreachable | connectionAborted | notConnected | addrInUse | addrNotAvailable
  | networkDown | brokenPipe | alreadyExists | wouldBlock | notADirectory | isADirectory
  | directoryNotEmpty | readOnlyFilesystem | filesystemLoop | staleNetworkFileHandle | invalidInput
  | invalidData | timedOut | writeZero | storageFull | notSeekable | quotaExceeded | fileTooLarge
  | resourceBusy | executableFileBusy | deadlock | crossesDevices | tooManyLinks | invalidFilename
  | argumentListTooLong | interrupted | unsupported | unexpectedEof | outOfMemory | inProgress
  | other | uncategorized
  deriving DecidableEq, Repr, Inhabited

namespace IoKind

/-- The name in reports. -/
def name : IoKind → String
  | notFound => "NotFound"
  | permissionDenied => "PermissionDenied"
  | connectionRefused => "ConnectionRefused"
  | connectionReset => "ConnectionReset"
  | hostUnreachable => "HostUnreachable"
  | networkUnreachable => "NetworkUnreachable"
  | connectionAborted => "ConnectionAborted"
  | notConnected => "NotConnected"
  | addrInUse => "AddrInUse"
  | addrNotAvailable => "AddrNotAvailable"
  | networkDown => "NetworkDown"
  | brokenPipe => "BrokenPipe"
  | alreadyExists => "AlreadyExists"
  | wouldBlock => "WouldBlock"
  | notADirectory => "NotADirectory"
  | isADirectory => "IsADirectory"
  | directoryNotEmpty => "DirectoryNotEmpty"
  | readOnlyFilesystem => "ReadOnlyFilesystem"
  | filesystemLoop => "FilesystemLoop"
  | staleNetworkFileHandle => "StaleNetworkFileHandle"
  | invalidInput => "InvalidInput"
  | invalidData => "InvalidData"
  | timedOut => "TimedOut"
  | writeZero => "WriteZero"
  | storageFull => "StorageFull"
  | notSeekable => "NotSeekable"
  | quotaExceeded => "QuotaExceeded"
  | fileTooLarge => "FileTooLarge"
  | resourceBusy => "ResourceBusy"
  | executableFileBusy => "ExecutableFileBusy"
  | deadlock => "Deadlock"
  | crossesDevices => "CrossesDevices"
  | tooManyLinks => "TooManyLinks"
  | invalidFilename => "InvalidFilename"
  | argumentListTooLong => "ArgumentListTooLong"
  | interrupted => "Interrupted"
  | unsupported => "Unsupported"
  | unexpectedEof => "UnexpectedEof"
  | outOfMemory => "OutOfMemory"
  | inProgress => "InProgress"
  | other => "Other"
  | uncategorized => "Uncategorized"

/-- Every sort of failure. -/
def all : List IoKind :=
  [notFound, permissionDenied, connectionRefused, connectionReset, hostUnreachable,
   networkUnreachable, connectionAborted, notConnected, addrInUse, addrNotAvailable, networkDown,
   brokenPipe, alreadyExists, wouldBlock, notADirectory, isADirectory, directoryNotEmpty,
   readOnlyFilesystem, filesystemLoop, staleNetworkFileHandle, invalidInput, invalidData, timedOut,
   writeZero, storageFull, notSeekable, quotaExceeded, fileTooLarge, resourceBusy,
   executableFileBusy, deadlock, crossesDevices, tooManyLinks, invalidFilename, argumentListTooLong,
   interrupted, unsupported, unexpectedEof, outOfMemory, inProgress, other, uncategorized]

/-- The sort of failure with that name. -/
def ofName? (s : String) : Option IoKind := all.find? (·.name == s)

end IoKind

/-- A failure that the operating system reports. -/
inductive SystemError where
  | noSuchFile | invalidArgument | tooManyOpenFiles | brokenPipe | addressInUse
  | cannotAssignAddress | networkUnreachable | connectionReset | notConnected | connectionRefused
  deriving DecidableEq, Repr

namespace SystemError

/-- The system's number for it. -/
def code : SystemError → Nat
  | noSuchFile => 2
  | invalidArgument => 22
  | tooManyOpenFiles => 24
  | brokenPipe => 32
  | addressInUse => 98
  | cannotAssignAddress => 99
  | networkUnreachable => 101
  | connectionReset => 104
  | notConnected => 107
  | connectionRefused => 111

def kind : SystemError → IoKind
  | noSuchFile => .notFound
  | invalidArgument => .invalidInput
  | tooManyOpenFiles => .uncategorized
  | brokenPipe => .brokenPipe
  | addressInUse => .addrInUse
  | cannotAssignAddress => .addrNotAvailable
  | networkUnreachable => .networkUnreachable
  | connectionReset => .connectionReset
  | notConnected => .notConnected
  | connectionRefused => .connectionRefused

/-- The system's text for it. -/
def text : SystemError → String
  | noSuchFile => "No such file or directory"
  | invalidArgument => "Invalid argument"
  | tooManyOpenFiles => "Too many open files"
  | brokenPipe => "Broken pipe"
  | addressInUse => "Address already in use"
  | cannotAssignAddress => "Cannot assign requested address"
  | networkUnreachable => "Network is unreachable"
  | connectionReset => "Connection reset by peer"
  | notConnected => "Transport endpoint is not connected"
  | connectionRefused => "Connection refused"

end SystemError

/-- A failed operation. -/
inductive IoError where
  /-- Reported by the operating system. -/
  | system (error : SystemError)
  /-- One of the fixed failures of the standard operations. -/
  | standard (kind : IoKind) (text : String)
  /-- Raised with a text of its own. -/
  | raised (kind : IoKind) (text : String)
  deriving DecidableEq, Repr

namespace IoError

def kind : IoError → IoKind
  | system e => e.kind
  | standard k _ => k
  | raised k _ => k

/-- How a user reads it. -/
def message : IoError → String
  | system e => s!"{e.text} (os error {e.code})"
  | standard _ t => t
  | raised _ t => t

/-- How a report shows it. -/
def debugText : IoError → String
  | system e =>
    Text.record "Os" [("code", toString e.code), ("kind", e.kind.name), ("message", Text.quoted e.text)]
  | standard k t => Text.record "Error" [("kind", k.name), ("message", Text.quoted t)]
  | raised k t => Text.record "Custom" [("kind", k.name), ("error", Text.quoted t)]

end IoError
end PooledTcp
