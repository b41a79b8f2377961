/-!
# Kinds of input and output faults

The kinds that faults of reading, writing and the file system fall into.  Each
has a name, and `FaultKind.named?` finds the kind of a name.
-/

namespace PacketMeter

/-- A kind of input or output fault. -/
inductive FaultKind where
  | notFound
  | permissionDenied
  | connectionRefused
  | connectionReset
  | hostUnreachable
  | networkUnreachable
  | connectionAborted
  | notConnected
  | addrInUse
  | addrNotAvailable
  | networkDown
  | brokenPipe
  | alreadyExists
  | wouldBlock
  | notADirectory
  | isADirectory
  | directoryNotEmpty
  | readOnlyFilesystem
  | filesystemLoop
  | staleNetworkFileHandle
  | invalidInput
  | invalidData
  | timedOut
  | writeZero
  | storageFull
  | notSeekable
  | quotaExceeded
  | fileTooLarge
  | resourceBusy
  | executableFileBusy
  | deadlock
  | crossesDevices
  | tooManyLinks
  | tooManyOpenFiles
  | invalidFilename
  | argumentListTooLong
  | interrupted
  | unsupported
  | unexpectedEof
  | outOfMemory
  | inProgress
  | other
  | uncategorized
  deriving Repr, DecidableEq, Inhabited

namespace FaultKind

def name : FaultKind → String
  | .notFound => "NotFound"
  | .permissionDenied => "PermissionDenied"
  | .connectionRefused => "ConnectionRefused"
  | .connectionReset => "ConnectionReset"
  | .hostUnreachable => "HostUnreachable"
  | .networkUnreachable => "NetworkUnreachable"
  | .connectionAborted => "ConnectionAborted"
  | .notConnected => "NotConnected"
  | .addrInUse => "AddrInUse"
  | .addrNotAvailable => "AddrNotAvailable"
  | .networkDown => "NetworkDown"
  | .brokenPipe => "BrokenPipe"
  | .alreadyExists => "AlreadyExists"
  | .wouldBlock => "WouldBlock"
  | .notADirectory => "NotADirectory"
  | .isADirectory => "IsADirectory"
  | .directoryNotEmpty => "DirectoryNotEmpty"
  | .readOnlyFilesystem => "ReadOnlyFilesystem"
  | .filesystemLoop => "FilesystemLoop"
  | .staleNetworkFileHandle => "StaleNetworkFileHandle"
  | .invalidInput => "InvalidInput"
  | .invalidData => "InvalidData"
  | .timedOut => "TimedOut"
  | .writeZero => "WriteZero"
  | .storageFull => "StorageFull"
  | .notSeekable => "NotSeekable"
  | .quotaExceeded => "QuotaExceeded"
  | .fileTooLarge => "FileTooLarge"
  | .resourceBusy => "ResourceBusy"
  | .executableFileBusy => "ExecutableFileBusy"
  | .deadlock => "Deadlock"
  | .crossesDevices => "CrossesDevices"
  | .tooManyLinks => "TooManyLinks"
  | .tooManyOpenFiles => "TooManyOpenFiles"
  | .invalidFilename => "InvalidFilename"
  | .argumentListTooLong => "ArgumentListTooLong"
  | .interrupted => "Interrupted"
  | .unsupported => "Unsupported"
  | .unexpectedEof => "UnexpectedEof"
  | .outOfMemory => "OutOfMemory"
  | .inProgress => "InProgress"
  | .other => "Other"
  | .uncategorized => "Uncategorized"

def all : List FaultKind := [
  .notFound,
  .permissionDenied,
  .connectionRefused,
  .connectionReset,
  .hostUnreachable,
  .networkUnreachable,
  .connectionAborted,
  .notConnected,
  .addrInUse,
  .addrNotAvailable,
  .networkDown,
  .brokenPipe,
  .alreadyExists,
  .wouldBlock,
  .notADirectory,
  .isADirectory,
  .directoryNotEmpty,
  .readOnlyFilesystem,
  .filesystemLoop,
  .staleNetworkFileHandle,
  .invalidInput,
  .invalidData,
  .timedOut,
  .writeZero,
  .storageFull,
  .notSeekable,
  .quotaExceeded,
  .fileTooLarge,
  .resourceBusy,
  .executableFileBusy,
  .deadlock,
  .crossesDevices,
  .tooManyLinks,
  .tooManyOpenFiles,
  .invalidFilename,
  .argumentListTooLong,
  .interrupted,
  .unsupported,
  .unexpectedEof,
  .outOfMemory,
  .inProgress,
  .other,
  .uncategorized]

/-- The kind with a given name. -/
def named? (s : String) : Option FaultKind := all.find? fun k => k.name == s

end FaultKind

end PacketMeter
