import StreamTransport.Notice
import StreamTransport.Resolution
import StreamTransport.Stream.Basic
import StreamTransport.Address.Wire

/-!
# Requests to the system

Everything the library asks of the world: the clock, the resolver, the kernel,
and the place where notices are left. A request determines the type of its
answer, and nothing else is promised about it.

How often signals cut a wait short is an answer too. It is some number, and
every interrupted attempt leaves a smaller one.
-/

set_option autoImplicit false

namespace StreamTransport

abbrev Descriptor := Nat

inductive SocketOption where
  | noDelay
  | keepAlive
  | receiveBuffer
  | keepIdle
  | keepInterval
  | keepCount
  | userTimeout
  | pendingError
  deriving DecidableEq, Repr

def SocketOption.name : SocketOption → String
  | noDelay => "TCP_NODELAY"
  | keepAlive => "SO_KEEPALIVE"
  | receiveBuffer => "SO_RCVBUF"
  | keepIdle => "TCP_KEEPIDLE"
  | keepInterval => "TCP_KEEPINTVL"
  | keepCount => "TCP_KEEPCNT"
  | userTimeout => "TCP_USER_TIMEOUT"
  | pendingError => "SO_ERROR"

/-- The conditions of a socket that a watch reports. -/
structure Interest where
  read : Bool := false
  write : Bool := false
  close : Bool := false
  deriving DecidableEq, Repr

structure PollEntry where
  descriptor : Descriptor
  direction : Direction
  deriving DecidableEq, Repr

/-- How one attempt to wait for `entries` descriptors ended, when `signals` more may strike. -/
inductive PollAnswer (signals entries : Nat) where
  | returned (flagged : Fin entries → Bool)
  | failed (errno : Errno)
  | interrupted (left : Fin signals)

abbrev Reply (α : Type) := Except Errno α

inductive Call where
  | clock
  | resolve (host : String) (port : Option UInt16)
  | socket (family : Family) (sockType protocol : Int)
  | connect (descriptor : Descriptor) (address : Bytes)
  | readMode (descriptor : Descriptor)
  | writeMode (descriptor : Descriptor) (nonblocking : Bool)
  | localName (descriptor : Descriptor)
  | peerName (descriptor : Descriptor)
  | getOption (descriptor : Descriptor) (option : SocketOption)
  | setOption (descriptor : Descriptor) (option : SocketOption) (value : Nat)
  | watchCreate
  | watchAdd (watch target : Descriptor) (interest : Interest)
  | watchModify (watch target : Descriptor) (interest : Interest)
  | watchRemove (watch target : Descriptor)
  | signalCount
  | poll (signals : Nat) (entries : List PollEntry) (millis : Option Nat)
  | receive (descriptor : Descriptor) (size : Nat)
  | peek (descriptor : Descriptor)
  | send (descriptor : Descriptor) (data : Bytes)
  | shutdown (descriptor : Descriptor)
  | close (descriptor : Descriptor)
  | eventCreate
  | eventSignal (descriptor : Descriptor)
  | note (notice : Notice)

/-- The clock tells nanoseconds. A mode is whether operations do not block. -/
def Call.Answer : Call → Type
  | clock => Nat
  | resolve _ _ => Outcome Resolution
  | socket _ _ _ => Reply Descriptor
  | connect _ _ => Reply Unit
  | readMode _ => Reply Bool
  | writeMode _ _ => Reply Unit
  | localName _ => Reply KernelAddress
  | peerName _ => Reply KernelAddress
  | getOption _ _ => Reply Int
  | setOption _ _ _ => Reply Unit
  | watchCreate => Reply Descriptor
  | watchAdd _ _ _ => Reply Unit
  | watchModify _ _ _ => Reply Unit
  | watchRemove _ _ => Reply Unit
  | signalCount => Nat
  | poll signals entries _ => PollAnswer signals entries.length
  | receive _ _ => Reply Bytes
  | peek _ => Reply Unit
  | send _ _ => Reply Nat
  | shutdown _ => Reply Unit
  | close _ => Unit
  | eventCreate => Reply Descriptor
  | eventSignal _ => Reply Unit
  | note _ => Unit

end StreamTransport
