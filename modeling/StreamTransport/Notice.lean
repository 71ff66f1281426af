import StreamTransport.Address.Basic
import StreamTransport.Error.Connect

/-!
# Notices

What the library reports on the side while it works. A notice is a value; its
level and its wording are functions of it, and no result depends on it.
-/

set_option autoImplicit false

namespace StreamTransport

inductive NoticeLevel where
  | debug
  | warn
  | error
  deriving DecidableEq, Repr

inductive Notice where
  | peerClosed (queued : Nat)
  | writeFailed (queued : Nat) (cause : Failure)
  | raceFailed (host : String) (cause : ConnectError)
  | resolvingFailed (host : String) (cause : Failure)
  | connectingToPeer (address : SocketAddress)
  | hostConnectFailed (host : String) (cause : ConnectError)
  | addressConnectFailed (address : SocketAddress) (cause : Failure)
  | wrappingFailed (cause : Failure)
  | localAddressFailed (cause : Failure)
  | noDelayFailed (cause : Failure)
  | receiveBufferFailed (cause : Failure)
  | receiveBufferUnread (cause : Failure)
  | optionFailed (cause : Failure)
  | socketFailed (address : SocketAddress) (cause : Failure)
  | alternateSkipped (host : String) (cause : Failure)
  | racing (participants targets : Nat)
  | alternateWon (host : String) (address : SocketAddress)
  | alternateFailed (host : String) (cause : Failure)
  | connectCancelled (address : SocketAddress)
  | cancelPollFailed (cause : Failure)
  | shutdownFailed (errno : Errno)

namespace Notice

def level : Notice → NoticeLevel
  | peerClosed _ => .debug
  | writeFailed _ _ => .debug
  | raceFailed _ _ => .debug
  | resolvingFailed _ _ => .debug
  | connectingToPeer _ => .debug
  | hostConnectFailed _ _ => .error
  | addressConnectFailed _ _ => .error
  | wrappingFailed _ => .error
  | localAddressFailed _ => .error
  | noDelayFailed _ => .warn
  | receiveBufferFailed _ => .error
  | receiveBufferUnread _ => .debug
  | optionFailed _ => .warn
  | socketFailed _ _ => .warn
  | alternateSkipped _ _ => .warn
  | racing _ _ => .debug
  | alternateWon _ _ => .debug
  | alternateFailed _ _ => .debug
  | connectCancelled _ => .debug
  | cancelPollFailed _ => .warn
  | shutdownFailed _ => .debug

def message : Notice → String
  | peerClosed queued => "peer closed with " ++ toString queued ++ " bytes queued"
  | writeFailed queued cause =>
    "write failed with " ++ toString queued ++ " bytes queued: " ++ cause.message
  | raceFailed host cause =>
    "alternate target race failed, resolving " ++ host ++ ": " ++ cause.message
  | resolvingFailed host cause => "resolving " ++ host ++ " failed: " ++ cause.message
  | connectingToPeer address => "connecting to peer " ++ address.text
  | hostConnectFailed host cause => "failed to connect to " ++ host ++ ": " ++ cause.message
  | addressConnectFailed address cause =>
    "failed to connect to " ++ address.text ++ ": " ++ cause.message
  | wrappingFailed cause => "wrapping connected socket failed: " ++ cause.message
  | localAddressFailed cause => "couldn't get socket ip address: " ++ cause.message
  | noDelayFailed cause => "unable to set TCP_NODELAY: " ++ cause.message
  | receiveBufferFailed cause => "unable to set receive buffer len: " ++ cause.message
  | receiveBufferUnread cause => "reading SO_RCVBUF failed, leaving it: " ++ cause.message
  | optionFailed cause => cause.message
  | socketFailed address cause => "socket() for " ++ address.text ++ " failed: " ++ cause.message
  | alternateSkipped host cause => "skipping alternate target " ++ host ++ ": " ++ cause.message
  | racing participants targets =>
    "racing " ++ toString participants ++ " of " ++ toString targets ++ " alternate targets"
  | alternateWon host address => "alternate target " ++ host ++ " won at " ++ address.text
  | alternateFailed host cause => "alternate target " ++ host ++ " failed: " ++ cause.message
  | connectCancelled address => "connect to " ++ address.text ++ " cancelled"
  | cancelPollFailed cause => "polling cancel token failed: " ++ cause.message
  | shutdownFailed errno => "shutdown() failed: errno " ++ toString errno.number

end Notice

/-- A setting in which notices can be left. -/
class Journal (m : Type → Type) where
  note : Notice → m Unit

/-- Where nobody reads them, notices are dropped. -/
instance : Journal Id := ⟨fun _ => ()⟩

/-- Notices in the order in which they were left. -/
instance : Journal (StateM (List Notice)) := ⟨fun n => modify (· ++ [n])⟩

end StreamTransport
