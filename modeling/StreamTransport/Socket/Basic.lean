import StreamTransport.System.Program

/-!
# Sockets

A socket is created, connected, and then owned as a connected socket. A connect
either blocks until it is decided, or is only started and confirmed later. An
operation that takes a socket over closes it when it fails.
-/

set_option autoImplicit false

namespace StreamTransport

open Program

/-- How a connected socket came to be. -/
inductive ConnectionKind where
  | tcp
  | unix
  | vsock
  | external
  deriving DecidableEq, Repr

namespace ConnectionKind

def ofFamily : Family → ConnectionKind
  | .unix => unix
  | .vsock => vsock
  | .inet => tcp
  | .inet6 => tcp

/-- Whether options of TCP are tried on it. -/
def hasTcpOptions : ConnectionKind → Bool
  | tcp => true
  | vsock => true
  | unix => false
  | external => false

end ConnectionKind

/-- Whether operations on a descriptor do not block. -/
def Descriptor.isNonblocking (d : Descriptor) : Attempt Failure Bool :=
  Attempt.ofReply (fun errno => .socket (.getOption errno "F_GETFL")) (perform (.readMode d))

/-- Switches the mode; where it is the one asked for already, nothing is written. -/
def Descriptor.setNonblocking (d : Descriptor) (nonblocking : Bool) : Attempt Failure Unit := do
  let current ← d.isNonblocking
  if current = nonblocking then pure ()
  else
    Attempt.ofReply (fun errno => .socket (.setOption errno "O_NONBLOCK"))
      (perform (.writeMode d nonblocking))

/-- The address a name request answered with. -/
def addressOfName (raw : KernelAddress) : Outcome SocketAddress :=
  match SocketAddress.decode? raw with
  | some address => .ok address
  | none => .error (.socket (.invalidAddress "unsupported address family"))

def Descriptor.localAddress (d : Descriptor) : Attempt Failure SocketAddress := do
  let raw ← Attempt.ofReply (fun errno => Failure.socket (.getOption errno "SO_SOCKNAME"))
    (perform (.localName d))
  ExceptT.mk (pure (addressOfName raw))

def Descriptor.peerAddress (d : Descriptor) : Attempt Failure SocketAddress := do
  let raw ← Attempt.ofReply (fun errno => Failure.socket (.getOption errno "SO_PEERNAME"))
    (perform (.peerName d))
  ExceptT.mk (pure (addressOfName raw))

/-- An established stream socket, owned once. -/
structure Connection where
  descriptor : Descriptor
  family : Family
  kind : ConnectionKind
  deriving DecidableEq, Repr

namespace Connection

/-- Takes a descriptor over if it has a name of a supported family, and leaves it alone if not. -/
def adopt (d : Descriptor) : Attempt Failure Connection := do
  let address ← d.localAddress
  return ⟨d, address.family, .external⟩

/-- Takes over what a number stands for. -/
def adoptNumber (number : Int) : Attempt Failure Connection :=
  if number < 0 then throw (.socket (.invalidAddress "negative descriptor"))
  else adopt number.toNat

/-- Takes a descriptor over, and closes it if it is refused. -/
def adoptOrClose (d : Descriptor) : Attempt Failure Connection :=
  (adopt d).orElseClean d.close

end Connection

/-- A connect that was started and is not confirmed. -/
structure StartedConnect where
  descriptor : Descriptor
  family : Family
  deriving DecidableEq, Repr

namespace StartedConnect

/-- Reads and clears the error the system holds against the connection. -/
def pendingError (p : StartedConnect) : Attempt Failure (Option Failure) := do
  let number ← Attempt.ofReply
    (fun errno => Failure.socket (.getOption errno SocketOption.pendingError.name))
    (perform (.getOption p.descriptor .pendingError))
  return if number = 0 then none else some (.system ⟨number⟩)

/-- Looks whether the connection was reset; anything else means that it stands. -/
def checkReset (p : StartedConnect) : Attempt Failure Unit := ExceptT.mk do
  match ← perform (.peek p.descriptor) with
  | .ok () => pure (.ok ())
  | .error errno =>
    pure (if errno = .connectionReset then .error (.system errno) else .ok ())

def finish (p : StartedConnect) (kind : ConnectionKind) : Connection :=
  ⟨p.descriptor, p.family, kind⟩

end StartedConnect

/-- A socket that was created and not connected. -/
structure Socket where
  descriptor : Descriptor
  family : Family
  deriving DecidableEq, Repr

namespace Socket

def create (family : Family) (sockType protocol : Int) : Attempt Failure Socket := do
  let d ← Attempt.ofReply (fun errno => Failure.socket (.create errno))
    (perform (.socket family sockType protocol))
  return ⟨d, family⟩

def stream (family : Family) : Attempt Failure Socket := create family streamType 0

def ofCandidate (c : Candidate) : Attempt Failure Socket := create c.family c.sockType c.protocol

/-- Asks for the connection; an address without a form for the kernel is refused here. -/
def request (socket : Socket) (address : SocketAddress) : Attempt Failure (Reply Unit) :=
  match address.encode? with
  | none => throw (.socket (.invalidAddress "address too long"))
  | some raw => Attempt.always (perform (.connect socket.descriptor raw))

/-- Connects and blocks until it is decided. -/
def connect (socket : Socket) (address : SocketAddress) (kind : ConnectionKind) :
    Attempt Failure Connection :=
  Attempt.orElseClean (do
    match ← socket.request address with
    | .ok () => return ⟨socket.descriptor, socket.family, kind⟩
    | .error errno => throw (.socket (.connect errno address.text)))
    socket.descriptor.close

/-- Starts a connect without blocking. An error number that is transient means that it goes on. -/
def startConnect (socket : Socket) (address : SocketAddress) : Attempt Failure StartedConnect :=
  Attempt.orElseClean (do
    socket.descriptor.setNonblocking true
    let pending : StartedConnect := ⟨socket.descriptor, socket.family⟩
    match ← socket.request address with
    | .ok () => return pending
    | .error errno =>
      if errno.isTransient then return pending
      else throw (.socket (.connect errno address.text)))
    socket.descriptor.close

end Socket
end StreamTransport
