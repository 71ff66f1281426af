import StreamTransport.Machine.Basic

/-!
# Socket options of a simulated machine

Two options belong to every socket, the pending error to local sockets, and the
rest to TCP. Each other kind of socket refuses the options of TCP in its own way.
-/

set_option autoImplicit false

namespace StreamTransport.Machine

/-- The largest receive buffer that can be asked for. -/
def receiveBufferLimit : Nat := 4194304

def leastBuffer : Nat := 2304

/-- A buffer is twice what was asked for, within limits. -/
def bufferFor (asked : Nat) : Nat := max (2 * min asked receiveBufferLimit) leastBuffer

def TcpOptions.get (t : TcpOptions) : SocketOption → Nat
  | .noDelay => t.noDelay.toNat
  | .keepIdle => t.keepIdle
  | .keepInterval => t.keepInterval
  | .keepCount => t.keepCount
  | .userTimeout => t.userTimeout
  | _ => 0

/-- The options after one is set, none if the value is out of its range. -/
def TcpOptions.set? (t : TcpOptions) (option : SocketOption) (value : Nat) : Option TcpOptions :=
  match option with
  | .noDelay => some { t with noDelay := value ≠ 0 }
  | .keepIdle => if 1 ≤ value ∧ value ≤ 32767 then some { t with keepIdle := value } else none
  | .keepInterval =>
    if 1 ≤ value ∧ value ≤ 32767 then some { t with keepInterval := value } else none
  | .keepCount => if 1 ≤ value ∧ value ≤ 127 then some { t with keepCount := value } else none
  | .userTimeout => some { t with userTimeout := value }
  | _ => none

/-- The options after one is set where no path is open yet: the times are taken as they are, and
zero stands for what a new socket has. -/
def TcpOptions.setFreely (t : TcpOptions) (option : SocketOption) (value : Nat) : TcpOptions :=
  let fresh : TcpOptions := {}
  match option with
  | .noDelay => { t with noDelay := value ≠ 0 }
  | .keepIdle => { t with keepIdle := if value = 0 then fresh.keepIdle else value }
  | .keepInterval => { t with keepInterval := if value = 0 then fresh.keepInterval else value }
  | .keepCount => { t with keepCount := if value = 0 then fresh.keepCount else value }
  | _ => t

def NetSocket.setTcp? (socket : NetSocket) (option : SocketOption) (value : Nat) :
    Option TcpOptions :=
  if socket.multipath then some (socket.tcp.setFreely option value)
  else socket.tcp.set? option value

/-- Whether a socket has an option of TCP. A socket over several paths has no user timeout. -/
def NetSocket.hasOption (socket : NetSocket) (option : SocketOption) : Bool :=
  socket.form = .stream && !(socket.multipath && option = .userTimeout)

/-- How a socket that is not TCP refuses to tell an option of TCP. -/
def Nature.untold : Nature → Errno
  | .unix _ => .notSupported
  | .net { name := .inet _, .. } => .notSupported
  | .link => .notSupported
  | _ => .noProtocolOption

/-- How a socket that is not TCP refuses to set an option of TCP. -/
def Nature.unset : Nature → Errno
  | .unix _ => .notSupported
  | .link => .notSupported
  | _ => .noProtocolOption

def getOption (d : Descriptor) (option : SocketOption) : Operation Int := do
  let (s, object) ← find d
  match object.resource with
  | .socket keepAlive buffer nature =>
    match option, nature with
    | .keepAlive, _ => return keepAlive.toNat
    | .receiveBuffer, _ => return buffer
    | .pendingError, .unix socket =>
      modify fun m => m.updateLocal s fun u => { u with reset := false }
      return if socket.reset then Errno.connectionReset.number else 0
    | .pendingError, _ => return 0
    | option, .net socket =>
      if socket.hasOption option then return socket.tcp.get option else throw nature.untold
    | _, nature => throw nature.untold
  | _ => throw .notSocket

def setOption (d : Descriptor) (option : SocketOption) (value : Nat) : Operation Unit := do
  let (s, object) ← find d
  match object.resource with
  | .socket keepAlive buffer nature =>
    match option, nature with
    | .keepAlive, _ => modify fun m => m.setResource s (.socket (value ≠ 0) buffer nature)
    | .receiveBuffer, _ =>
      modify fun m => m.setResource s (.socket keepAlive (bufferFor value) nature)
    | .pendingError, _ => throw .noProtocolOption
    | option, .net socket =>
      unless socket.hasOption option do throw nature.unset
      match socket.setTcp? option value with
      | some tcp => modify fun m => m.updateNet s fun n => { n with tcp }
      | none => throw .invalidArgument
    | _, nature => throw nature.unset
  | _ => throw .notSocket

end StreamTransport.Machine
