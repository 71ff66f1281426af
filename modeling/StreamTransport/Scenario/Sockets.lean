import StreamTransport.Scenario.Basic
import StreamTransport.Socket.Options

/-!
# Sockets in a scenario

Creating, connecting and adopting sockets, and their options.
-/

set_option autoImplicit false

namespace StreamTransport.Scenario

/-- The options of TCP that a report shows, in its order. -/
def shownOptions : List SocketOption := [.keepIdle, .keepCount, .keepInterval, .userTimeout]

def tcpOptions (d : Descriptor) : Play (List (Option Int)) :=
  shownOptions.mapM fun option => do return (← attempt (d.getOption option)).toOption

def enoughBuffer (d : Descriptor) : Attempt Failure Bool := do
  return Descriptor.leastReceiveBuffer ≤ (← d.receiveBuffer)

def describe (s : Connection) : Play SocketReport := do
  let d := s.descriptor
  return {
    kind := s.kind
    family := s.family
    nonblocking := ← attempt d.isNonblocking
    noDelay := ← attempt (d.getFlag .noDelay)
    keepAlive := ← attempt (d.getFlag .keepAlive)
    enoughBuffer := ← attempt (enoughBuffer d)
    tcpOptions := ← tcpOptions d
    localName := ← namedOutcome (← attempt d.localAddress)
    peerName := ← namedOutcome (← attempt d.peerAddress) }

/-- Stores a connected socket and describes it. -/
def storeConnected (name : Name) (s : Connection) : Play Report := do
  let report ← describe s
  store name (.connected s)
  return .socket report

def storeOutcome (name : Name) (outcome : Outcome Connection) : Play Report := do
  match outcome with
  | .ok s => storeConnected name s
  | .error cause => return .failed cause

def createSocket (name : Name) (family : Family) (sockType protocol : Int) : Play Report := do
  match ← attempt (Socket.create family sockType protocol) with
  | .error cause => return .failed cause
  | .ok s =>
    let mode ← attempt s.descriptor.isNonblocking
    store name (.socket s)
    return .created s.family mode

def connect (on name : Name) (target : Destination) (kind : ConnectionKind) : Play Report := do
  let socket ← take on socket?
  let address ← orRelease (.socket socket) (destination target)
  storeOutcome name (← attempt (socket.connect address kind))

def startConnect (on name : Name) (target : Destination) : Play Report := do
  let socket ← take on socket?
  let address ← orRelease (.socket socket) (destination target)
  match ← attempt (socket.startConnect address) with
  | .error cause => return .failed cause
  | .ok p =>
    let mode ← attempt p.descriptor.isNonblocking
    store name (.pending p)
    return .started mode

def pendingError (on : Name) : Play Report := do
  let p ← look on pending?
  return orFailed (← attempt p.pendingError) .pendingError

def checkReset (on : Name) : Play Report := do
  let p ← look on pending?
  return doneOr (← attempt p.checkReset)

def finish (on name : Name) (kind : ConnectionKind) : Play Report := do
  let p ← take on pending?
  storeConnected name (p.finish kind)

def adoptOrClose (on name : Name) : Play Report := do
  let d ← take on held?
  storeOutcome name (← attempt (Connection.adoptOrClose d))

/-- Whether a number stands for an open descriptor. -/
def isOpen (number : Int) : Play Bool := do
  return 0 ≤ number ∧ ((← get).machine.serial? number.toNat).isSome

/-- Takes over what a number stands for. One that is refused is left alone. -/
def adoptNumber (number : Int) (name : Name) : Play (Report × List Fact) := do
  match ← attempt (Connection.adoptNumber number) with
  | .ok s => return (← storeConnected name s, [])
  | .error cause => return (.failed cause, [.stillOpen (← isOpen number)])

/-- Takes over a value's descriptor. One that is refused is still the scenario's, which closes it
once it has looked whether it is open. -/
def adopt (on name : Name) : Play (Report × List Fact) := do
  let d ← take on held?
  let (report, facts) ← adoptNumber (Int.ofNat d) name
  if let .failed _ := report then run (Descriptor.close d)
  return (report, facts)

def releaseSocket (on name : Name) : Play Report := do
  let s ← take on connected?
  store name (.plain s.descriptor)
  return .done

def info (on : Name) : Play Report := do return .socket (← describe (← look on connected?))

def changeOption (on : Name) (setting : Setting) : Play Report := do
  let d ← descriptor on
  match setting with
  | .flag option enabled => return doneOr (← attempt (d.setFlag option enabled))
  | .value option value => return doneOr (← attempt (d.setOption option value))
  | .atLeast least => return doneOr (← attempt (d.raiseReceiveBuffer least))
  | .keepAlive settings ackTimeoutMs =>
    run (d.tryKeepAlive settings ackTimeoutMs)
    return .done

def readOption (on : Name) (reading : Reading) : Play Report := do
  let d ← descriptor on
  match reading with
  | .flag option => return orFailed (← attempt (d.getFlag option)) .flag
  | .receiveBuffer => return orFailed (← attempt d.receiveBuffer) .number
  | .enoughBuffer => return orFailed (← attempt (enoughBuffer d)) .flag
  | .tcpOptions => return .tcpOptions (← tcpOptions d)

end StreamTransport.Scenario
