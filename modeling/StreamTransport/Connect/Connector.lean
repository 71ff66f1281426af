import StreamTransport.Connect.Race
import StreamTransport.Socket.Options
import StreamTransport.Socket.RawStream
import StreamTransport.Target

/-!
# Connectors

A connector runs connect sequences under one set of settings. It remembers the
local address of the last socket it configured, and the first error code since
the last successful resolution. Its token is looked at throughout a sequence.

A sequence finds out what the endpoint names, connects to it, and configures
the socket: the local address is recorded, options are set as well as they can
be, and the receive buffer is raised to its least size.

The connect to a resolved host can be cancelled and can run out of time. It is
started without blocking and watched together with the token; where both are
ready the token counts. No timeout, and a timeout of zero, is no limit. On
success the socket blocks again; on every failure it is closed, and the watch is
closed always.
-/

set_option autoImplicit false

namespace StreamTransport

open Program

/-! ### Connecting within a time -/

/-- A timeout that limits anything. -/
def effectiveTimeout (timeout : Option Duration) : Option Duration :=
  timeout.filter fun t => t.nanos ≠ 0

/-- Waits until the token or the connect is decided, and confirms the connect. -/
def StartedConnect.confirm (started : StartedConnect) (watch : Watch) (address : SocketAddress)
    (timeout : Option Duration) (cancel : Cancellation) : Attempt ConnectError Unit := do
  match ← (Wait.any [cancel.descriptor, watch.descriptor] timeout).mapError .socket with
  | some 0 =>
    Attempt.always (Journal.note (.connectCancelled address))
    throw .cancelled
  | none => throw (.timedOut address.text (timeout.getD .zero))
  | some _ =>
    if let some cause ← started.pendingError.mapError .socket then
      throw (.connect address.text cause)
    started.checkReset.mapError (.connect address.text)
    watch.stop.mapError .socket

def Socket.connectWithin (socket : Socket) (address : SocketAddress) (timeout : Option Duration)
    (cancel : Cancellation) : Attempt ConnectError Connection := do
  if ← Attempt.always cancel.isRequested then
    Attempt.always socket.descriptor.close
    throw .cancelled
  let started ← (socket.startConnect address).mapError (.connect address.text)
  Attempt.orElseClean (do
    let watch ← (Watch.create started.descriptor
      { read := true, write := true, close := true }).mapError .socket
    (started.confirm watch address (effectiveTimeout timeout) cancel).orElseClean watch.close
    Attempt.always watch.close
    (started.descriptor.setNonblocking false).mapError .socket
    return started.finish (.ofFamily address.family))
    started.descriptor.close

/-! ### Sequences -/

structure Connector where
  settings : Settings
  cancel : Cancellation
  lastError : Option ErrorCode := none
  clientAddress : Option IpText := none

namespace Connector

def create (settings : Settings) : Attempt Failure Connector := do
  return { settings, cancel := ← Cancellation.create }

/-- A sequence step that may change what the connector remembers. -/
abbrev Step (α : Type) := ExceptT ConnectError (StateT Connector Program) α

def Step.ofAttempt {α : Type} (p : Attempt ConnectError α) : Step α :=
  ExceptT.mk (StateT.lift p.run)

def Step.always {α : Type} (p : Program α) : Step α := ExceptT.lift (StateT.lift p)

/-- Keeps the first code of those recorded. -/
def record (c : Connector) (code : ErrorCode) : Connector :=
  { c with lastError := some (c.lastError.getD code) }

def forget (c : Connector) : Connector := { c with lastError := none }

def isResolvable (host : String) : Program Bool := do
  match ← perform (.resolve host none) with
  | .ok _ => return true
  | .error _ => return false

/-- Alternate targets are raced if there are any and no gateway stands between, and either remote
assistance asks for it or the host name does not resolve. -/
def racesFor (s : Settings) (host : String) : Program Bool :=
  if s.gatewayEnabled || s.targets.isEmpty then return false
  else if s.remoteAssistance then return true
  else return !(← isResolvable host)

def connectAddress (family : Family) (address : SocketAddress) (kind : ConnectionKind) :
    Attempt ConnectError Connection := do
  let socket ← (Socket.stream family).mapError .socket
  ExceptT.mk do
    match ← (socket.connect address kind).run with
    | .ok connected => return .ok connected
    | .error cause =>
      Journal.note (.addressConnectFailed address cause)
      return .error (.connect address.text cause)

/-- Creates a socket for the candidate at `index`, or for the next one that the policy picks while
sockets cannot be created. -/
def socketFrom (r : Resolution) (policy : AddressPolicy) (index : Fin r.candidates.length) :
    Attempt ConnectError (Socket × Fin r.candidates.length) := ExceptT.mk do
  let candidate := r.candidates[index]
  match ← (Socket.ofCandidate candidate).run with
  | .ok socket => return .ok (socket, index)
  | .error cause =>
    Journal.note (.socketFailed candidate.address cause)
    match found : r.select (index + 1) policy with
    | none => return .error (.socket cause)
    | some next =>
      have bounds := Resolution.select_lt found
      (socketFrom r policy ⟨next, bounds.2⟩).run
termination_by r.candidates.length - index
decreasing_by
  have := index.isLt
  omega

/-- The word for the addresses a policy allows. -/
def wantedFamily (policy : AddressPolicy) : String :=
  match policy.force with
  | none => "usable"
  | some forced => forced.family.name

/-- A socket for a candidate that the policy allows, and where that candidate stands. -/
def socketFor (host : String) (r : Resolution) (policy : AddressPolicy) :
    Attempt ConnectError (Socket × Fin r.candidates.length) :=
  match found : r.select 0 policy with
  | none => throw (.noMatchingFamily host (wantedFamily policy))
  | some index => socketFrom r policy ⟨index, (Resolution.select_lt found).2⟩

/-- Resolves the host name and connects to the candidate that the policy picks. -/
def connectResolved (host : String) (port : UInt16) (timeout : Option Duration) :
    Step Connection := do
  match ← Step.always (perform (.resolve host (some port))) with
  | .error cause =>
    Step.always (Journal.note (.resolvingFailed host cause))
    throw (.resolve host)
  | .ok resolution =>
    modify forget
    let c ← get
    let (socket, index) ← Step.ofAttempt (socketFor host resolution c.settings.addressPolicy)
    let address := resolution.candidates[index].address
    Step.always (Journal.note (.connectingToPeer address))
    match ← Step.always (socket.connectWithin address timeout c.cancel).run with
    | .ok connected => return connected
    | .error e =>
      Step.always (Journal.note (.hostConnectFailed host e))
      throw e

/-- Races the alternate targets where that is called for, and otherwise, or when the race is lost,
connects to the host itself. -/
def reachHost (host : String) (port : UInt16) (timeout : Option Duration) :
    Step Connection := do
  let c ← get
  if ← Step.always (racesFor c.settings host) then
    match ← Step.always (Race.run c.settings.targets port (some c.cancel)).run with
    | .ok socket => return socket
    | .error .cancelled => throw .cancelled
    | .error e =>
      Step.always (Journal.note (.raceFailed host e))
      modify (·.record .connectCancelled)
  connectResolved host port timeout

def reach (timeout : Option Duration) : Target → Step Connection
  | .unix a => Step.ofAttempt (connectAddress .unix (.unix a) .unix)
  | .external d => Step.ofAttempt ((Connection.adopt d).mapError .socket)
  | .vsock a => Step.ofAttempt (connectAddress .vsock (.vsock a) .vsock)
  | .host name port => reachHost name port timeout

/-- The local address of a socket as text. -/
def localText (socket : Connection) : Attempt Failure IpText := do
  let address ← socket.descriptor.localAddress
  match address.ipText? with
  | some ip => return ip
  | none => throw (.described .invalidData "local address has no IP form")

/-- Records the local address. A socket without one is closed; a descriptor that was handed in is
given back instead. -/
def recordLocal (socket : Connection) : Step Unit := do
  match ← Step.always (localText socket).run with
  | .ok ip => modify fun c => { c with clientAddress := some ip }
  | .error cause =>
    Step.always (Journal.note (.localAddressFailed cause))
    if socket.kind ≠ .external then Step.always socket.descriptor.close
    throw (.configure cause)

/-- What is left of configuring once the address is known. -/
def configureOptions (c : Connector) (socket : Connection) : Attempt ConnectError Unit := do
  let d := socket.descriptor
  if socket.kind.hasTcpOptions then
    Attempt.always (d.tryOption .noDelay 1 .noDelayFailed)
  match ← Attempt.always (d.raiseReceiveBuffer Descriptor.leastReceiveBuffer).run with
  | .ok () => pure ()
  | .error cause =>
    Attempt.always (Journal.note (.receiveBufferFailed cause))
    throw (.configure cause)
  if socket.kind.hasTcpOptions then
    Attempt.always (d.tryKeepAlive c.settings.keepAlive c.settings.ackTimeoutMs)
  if ← Attempt.always c.cancel.isRequested then throw .cancelled

def configure (socket : Connection) : Step Connection := do
  if socket.family ≠ .vsock then recordLocal socket
  Step.ofAttempt ((configureOptions (← get) socket).orElseClean socket.descriptor.close)
  return socket

/-- Connects to an endpoint and configures the socket. -/
def sequence (endpoint : String) (port : UInt32) (timeout : Option Duration) :
    Step Connection := do
  match Target.ofEndpoint endpoint port with
  | .error fault => throw fault.toError
  | .ok target => configure (← reach timeout target)

def connect (c : Connector) (endpoint : String) (port : UInt32)
    (timeout : Option Duration) : Program (Except ConnectError Connection × Connector) := do
  let (result, c) ← (sequence endpoint port timeout).run.run c
  match result with
  | .ok socket => return (.ok socket, c)
  | .error e => return (.error e, c.record e.code)

/-- Connects, applies keep-alive whatever the kind of socket, and makes a transport layer of it. -/
def openLayer (c : Connector) (endpoint : String) (port : UInt32)
    (timeout : Option Duration) : Program (Except ConnectError Layer × Connector) := do
  let (result, c) ← c.connect endpoint port timeout
  match result with
  | .error e => return (.error e, c)
  | .ok socket =>
    socket.descriptor.tryKeepAlive c.settings.keepAlive c.settings.ackTimeoutMs
    match ← (Layer.ofSocket socket).run with
    | .ok layer => return (.ok layer, c)
    | .error cause =>
      Journal.note (.wrappingFailed cause)
      return (.error (.configure cause), c.record .connectFailed)

end Connector
end StreamTransport
