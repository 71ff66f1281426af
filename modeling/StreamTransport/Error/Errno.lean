/-!
# Error numbers of the kernel

A failed call leaves a number. A transient one says that nothing is wrong and
that the call may be tried again later; every other is final. Two tables read
the number: its wording in messages, and the kind of failure it stands for.
-/

set_option autoImplicit false

namespace StreamTransport

structure Errno where
  number : Int
  deriving DecidableEq, Repr

namespace Errno

def notPermitted : Errno := ⟨1⟩
def noEntry : Errno := ⟨2⟩
def interrupted : Errno := ⟨4⟩
def badDescriptor : Errno := ⟨9⟩
def tryAgain : Errno := ⟨11⟩
def permissionDenied : Errno := ⟨13⟩
def fileExists : Errno := ⟨17⟩
def noDevice : Errno := ⟨19⟩
def notDirectory : Errno := ⟨20⟩
def invalidArgument : Errno := ⟨22⟩
def tooManyFiles : Errno := ⟨24⟩
def brokenPipe : Errno := ⟨32⟩
def tooManyLevels : Errno := ⟨40⟩
def notSocket : Errno := ⟨88⟩
def destinationRequired : Errno := ⟨89⟩
def messageTooLong : Errno := ⟨90⟩
def wrongType : Errno := ⟨91⟩
def noProtocolOption : Errno := ⟨92⟩
def protocolNotSupported : Errno := ⟨93⟩
def socketTypeNotSupported : Errno := ⟨94⟩
def notSupported : Errno := ⟨95⟩
def familyNotSupported : Errno := ⟨97⟩
def addressInUse : Errno := ⟨98⟩
def addressNotAvailable : Errno := ⟨99⟩
def networkUnreachable : Errno := ⟨101⟩
def connectionReset : Errno := ⟨104⟩
def alreadyConnected : Errno := ⟨106⟩
def notConnected : Errno := ⟨107⟩
def connectionRefused : Errno := ⟨111⟩
def already : Errno := ⟨114⟩
def inProgress : Errno := ⟨115⟩

/-- The numbers that mean "try again later" rather than failure. -/
def isTransient (e : Errno) : Bool :=
  e = tryAgain || e = interrupted || e = inProgress || e = already

/-- The wording in messages; a number outside the table is written as itself. -/
def message (e : Errno) : String :=
  match e.number with
  | 2 => "no such file or directory"
  | 4 => "interrupted by signal"
  | 9 => "bad file descriptor"
  | 11 => "resource temporarily unavailable"
  | 13 => "permission denied"
  | 22 => "invalid argument"
  | 24 => "too many open files"
  | 32 => "broken pipe"
  | 92 => "protocol option not available"
  | 97 => "address family not supported"
  | 99 => "address not available"
  | 101 => "network unreachable"
  | 104 => "connection reset by peer"
  | 105 => "no buffer space available"
  | 107 => "not connected"
  | 110 => "connection timed out"
  | 111 => "connection refused"
  | 113 => "host unreachable"
  | 114 => "operation already in progress"
  | 115 => "operation in progress"
  | n => "errno " ++ toString n

end Errno

/-- What sort of failure it was, for callers that branch on it. -/
inductive FailureKind where
  | notFound
  | permissionDenied
  | connectionRefused
  | connectionReset
  | hostUnreachable
  | networkUnreachable
  | connectionAborted
  | notConnected
  | addrInUse
  | addrNotAvailable
  | networkDown
  | brokenPipe
  | alreadyExists
  | wouldBlock
  | notADirectory
  | isADirectory
  | directoryNotEmpty
  | readOnlyFilesystem
  | filesystemLoop
  | staleNetworkFileHandle
  | invalidInput
  | invalidData
  | timedOut
  | storageFull
  | notSeekable
  | quotaExceeded
  | fileTooLarge
  | resourceBusy
  | executableFileBusy
  | deadlock
  | crossesDevices
  | tooManyLinks
  | invalidFilename
  | argumentListTooLong
  | interrupted
  | unsupported
  | outOfMemory
  | inProgress
  | other
  | uncategorized
  deriving DecidableEq, Repr

/-- The kind of a failed call of this library; what the table leaves out is `other`. -/
def Errno.kind (e : Errno) : FailureKind :=
  match e.number with
  | 1 => .permissionDenied
  | 2 => .notFound
  | 4 => .interrupted
  | 11 => .wouldBlock
  | 13 => .permissionDenied
  | 22 => .invalidInput
  | 32 => .brokenPipe
  | 99 => .addrNotAvailable
  | 104 => .connectionReset
  | 107 => .notConnected
  | 110 => .timedOut
  | 111 => .connectionRefused
  | _ => .other

/-- The kind of an error that the system itself reports about a connection. -/
def Errno.systemKind (e : Errno) : FailureKind :=
  match e.number with
  | 1 => .permissionDenied
  | 2 => .notFound
  | 4 => .interrupted
  | 7 => .argumentListTooLong
  | 11 => .wouldBlock
  | 12 => .outOfMemory
  | 13 => .permissionDenied
  | 16 => .resourceBusy
  | 17 => .alreadyExists
  | 18 => .crossesDevices
  | 20 => .notADirectory
  | 21 => .isADirectory
  | 22 => .invalidInput
  | 26 => .executableFileBusy
  | 27 => .fileTooLarge
  | 28 => .storageFull
  | 29 => .notSeekable
  | 30 => .readOnlyFilesystem
  | 31 => .tooManyLinks
  | 32 => .brokenPipe
  | 35 => .deadlock
  | 36 => .invalidFilename
  | 38 => .unsupported
  | 39 => .directoryNotEmpty
  | 40 => .filesystemLoop
  | 95 => .unsupported
  | 98 => .addrInUse
  | 99 => .addrNotAvailable
  | 100 => .networkDown
  | 101 => .networkUnreachable
  | 103 => .connectionAborted
  | 104 => .connectionReset
  | 107 => .notConnected
  | 110 => .timedOut
  | 111 => .connectionRefused
  | 113 => .hostUnreachable
  | 115 => .inProgress
  | 116 => .staleNetworkFileHandle
  | 122 => .quotaExceeded
  | _ => .uncategorized

end StreamTransport
