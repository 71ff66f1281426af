import StreamTransport.Settings.Basic
import StreamTransport.Socket.Basic

/-!
# Socket options

Options are read and set one by one. Keep-alive settings are applied as well as
they can be: each is tried on its own, and one that cannot be set is noted and
has no other effect. A receive buffer is only ever raised.
-/

set_option autoImplicit false

namespace StreamTransport.Descriptor

open Program

/-- The largest value an option can be given. -/
def optionLimit : Nat := 0x7FFFFFFF

def setOption (d : Descriptor) (option : SocketOption) (value : Nat) : Attempt Failure Unit :=
  Attempt.ofReply (fun errno => .socket (.setOption errno option.name))
    (perform (.setOption d option (min value optionLimit)))

def getOption (d : Descriptor) (option : SocketOption) : Attempt Failure Int :=
  Attempt.ofReply (fun errno => .socket (.getOption errno option.name))
    (perform (.getOption d option))

def setFlag (d : Descriptor) (option : SocketOption) (on : Bool) : Attempt Failure Unit :=
  d.setOption option on.toNat

def getFlag (d : Descriptor) (option : SocketOption) : Attempt Failure Bool := do
  return (← d.getOption option) != 0

def receiveBuffer (d : Descriptor) : Attempt Failure Nat := do
  return (← d.getOption .receiveBuffer).toNat

/-- The receive buffer a connected socket has at least. -/
def leastReceiveBuffer : Nat := 32768

/-- Raises the receive buffer to `least`. One that cannot be read is left alone. -/
def raiseReceiveBuffer (d : Descriptor) (least : Nat) : Attempt Failure Unit := ExceptT.mk do
  match ← d.receiveBuffer.run with
  | .ok current =>
    if current < least then (d.setOption .receiveBuffer least).run else pure (.ok ())
  | .error cause =>
    Journal.note (.receiveBufferUnread cause)
    pure (.ok ())

/-- Tries to set an option, and notes that it cannot be set. -/
def tryOption (d : Descriptor) (option : SocketOption) (value : Nat)
    (notice : Failure → Notice) : Program Unit := do
  match ← (d.setOption option value).run with
  | .ok () => pure ()
  | .error cause => Journal.note (notice cause)

/-- The options that keep-alive settings ask for, in the order in which they are tried. -/
def keepAliveOptions (k : KeepAlive) (ackTimeoutMs : UInt32) : List (SocketOption × Nat) :=
  (.keepAlive, k.enabled.toNat) ::
    (if k.enabled then [
      (.keepIdle, k.idleSecs.toNat),
      (.keepCount, k.retries.toNat),
      (.keepInterval, k.intervalSecs.toNat)] else []) ++
    [(.userTimeout, ackTimeoutMs.toNat)]

def tryKeepAlive (d : Descriptor) (k : KeepAlive) (ackTimeoutMs : UInt32) : Program Unit :=
  (keepAliveOptions k ackTimeoutMs).forM fun option =>
    d.tryOption option.1 option.2 .optionFailed

end StreamTransport.Descriptor
