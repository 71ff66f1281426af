import StreamTransport.Error.Errno
import StreamTransport.Error.SystemText

/-!
# Failures of one operation

A failure names its cause: a call on a socket, a read or write on a stream, an
error the system holds against a connection, or a failure described from
outside. Its message and its kind are functions of the cause.
-/

set_option autoImplicit false

namespace StreamTransport

/-- Creating, connecting, configuring or watching a socket. -/
inductive SocketError where
  | create (errno : Errno)
  | connect (errno : Errno) (address : String)
  | setOption (errno : Errno) (option : String)
  | getOption (errno : Errno) (option : String)
  | readiness (errno : Errno) (call : String)
  | invalidAddress (reason : String)
  deriving DecidableEq, Repr

/-- Reading from or writing to a stream. -/
inductive StreamError where
  | read (errno : Errno)
  | write (errno : Errno)
  | connectionClosed
  | closed
  deriving DecidableEq, Repr

inductive Failure where
  | socket (cause : SocketError)
  | stream (cause : StreamError)
  | system (errno : Errno)
  | described (kind : FailureKind) (text : String)
  deriving DecidableEq, Repr

namespace SocketError

def message : SocketError → String
  | create e => "socket() failed: " ++ e.message
  | connect e address => "connect(" ++ address ++ ") failed: " ++ e.message
  | setOption e option => "setsockopt(" ++ option ++ ") failed: " ++ e.message
  | getOption e option => "getsockopt(" ++ option ++ ") failed: " ++ e.message
  | readiness e call => call ++ "() failed: " ++ e.message
  | invalidAddress reason => "invalid address: " ++ reason

/-- An address that cannot be used counts as an invalid argument. -/
def kind : SocketError → FailureKind
  | create e => e.kind
  | connect e _ => e.kind
  | setOption e _ => e.kind
  | getOption e _ => e.kind
  | readiness e _ => e.kind
  | invalidAddress _ => Errno.invalidArgument.kind

end SocketError

namespace StreamError

def message : StreamError → String
  | read e => "recv() failed: " ++ e.message
  | write e => "send() failed: " ++ e.message
  | connectionClosed => "connection closed by peer"
  | closed => "stream already closed"

def kind : StreamError → FailureKind
  | read e => e.kind
  | write e => e.kind
  | connectionClosed => .connectionReset
  | closed => .notConnected

end StreamError

namespace Failure

def message : Failure → String
  | socket cause => cause.message
  | stream cause => cause.message
  | system e => SystemText.message e.number
  | described _ text => text

def kind : Failure → FailureKind
  | socket cause => cause.kind
  | stream cause => cause.kind
  | system e => e.systemKind
  | described kind _ => kind

end Failure
end StreamTransport
