import StreamTransport.Scenario.Sockets

/-!
# Connecting in a scenario

Cancel tokens, connectors and their sequences, races, and single connects with
a time limit. A connector keeps its own resolver.
-/

set_option autoImplicit false

namespace StreamTransport.Scenario

def tokenOf (name : Name) : Play Cancellation := look name Value.token?

/-- The token that a new value or a connect is put under. -/
def tokenNamed (name : Name) : Play Cancellation := do
  match (← value? name).bind Value.token? with
  | some t => return t
  | none => throw (.noToken name)

def token (name : Name) (copyOf : Option Name) : Play Report := do
  match copyOf with
  | some other =>
    store name (.token (← tokenNamed other))
    return .done
  | none =>
    match ← attempt Cancellation.create with
    | .error cause => return .failed cause
    | .ok t =>
      store name (.token t)
      return .done

def cancel (on : Name) : Play Report := do
  return doneOr (← attempt (← tokenOf on).request)

def isCancelled (on : Name) : Play Report := do
  return .flag (← run (← tokenOf on).isRequested)

/-- A connector with the given token, or with a new one. -/
def newConnector (settings : Settings) (cancel : Option Name) : Play (Outcome Connector) := do
  match cancel with
  | some name => return .ok { settings, cancel := ← tokenNamed name }
  | none => attempt (Connector.create settings)

def connector (name : Name) (settings : Settings) (hosts : HostTable) (cancel : Option Name) :
    Play Report := do
  let resolver ← hostTable hosts
  match ← newConnector settings cancel with
  | .error cause => return .failed cause
  | .ok c =>
    store name (.connector c resolver)
    return .targets settings.targets.length

def systemConnector (name : Name) (settings : Settings) : Play Report := do
  match ← newConnector settings none with
  | .error cause => return .failed cause
  | .ok c =>
    store name (.connector c .numeric)
    return .done

def resolveBy (resolver : Resolver) : Play Unit :=
  modify fun s => { s with machine := { s.machine with resolver } }

/-- The port of an address of the internet. -/
def portOf? : SocketAddress → Option UInt16
  | .inet a => some a.port
  | .inet6 a => some a.port
  | _ => none

def askedPort (endpoints : List (Name × SocketAddress)) : Option UInt16 → AskedPort
  | none => .none
  | some port =>
    match endpoints.find? fun entry => portOf? entry.2 = some port with
    | some (name, _) => .ofEndpoint name
    | none => .number port

/-- What a table resolver was asked in this step. -/
def resolvedFact : Play Fact := do
  let s ← MonadState.get
  return .resolved (s.machine.lookups.map fun l => (l.host, askedPort s.endpoints l.port))

def connectorFacts (c : Connector) (resolver : Resolver) : Play (List Fact) := do
  let resolved ← match resolver with
    | .numeric => pure []
    | .table _ => do pure [← resolvedFact]
  return .lastError c.lastError :: .clientAddress c.clientAddress :: resolved

def endpointText : EndpointSpec → Play String
  | .spelled text => return text
  | .privateFile name => return (← MonadState.get).machine.privatePath name

/-- The port of a sequence. A descriptor that is handed in leaves the scenario. -/
def portNumber : PortSpec → Play UInt32
  | .number port => return port
  | .ofEndpoint name => do
    match ((← MonadState.get).endpoints.lookup name).bind portOf? with
    | some port => return port.toUInt32
    | none => throw (.noPort name)
  | .descriptor name => do return UInt32.ofNat (← take name held?)

def connectorAt (on : Name) : Play (Connector × Resolver) := do
  match (← value? on).bind connector? with
  | some found => return found
  | none => throw .notConnector

/-- Runs a sequence of a connector, and keeps what the connector remembers. -/
def runSequence {α : Type} (on : Name) (q : Sequence)
    (sequence : Connector → String → UInt32 → Option Duration →
      Program (Except ConnectError α × Connector))
    (report : α → Play Report) : Play (Report × List Fact) := do
  let port ← portNumber q.port
  let (c, resolver) ← connectorAt on
  resolveBy resolver
  let (result, c) ← run (sequence c (← endpointText q.endpoint) port q.timeout)
  replace on (.connector c resolver)
  let facts ← connectorFacts c resolver
  match result with
  | .ok a => return (← report a, facts)
  | .error e => return (.connectFailed e, facts)

def openSocket (on name : Name) (q : Sequence) : Play (Report × List Fact) :=
  runSequence on q Connector.connect (storeConnected name)

def storeLayer (name : Name) (l : Layer) : Play Report := do
  let s := l.stream
  let report : LayerReport := {
    family := s.family
    kind := s.kind
    nonblocking := ← attempt s.isNonblocking
    peerText := ← attempt s.peerText
    peerName := ← namedOutcome (← attempt s.peerAddress)
    watchable := l.watch?.isSome }
  store name (.layer l)
  return .layer report

def openLayer (on name : Name) (q : Sequence) : Play (Report × List Fact) :=
  runSequence on q Connector.openLayer (storeLayer name)

def resolvable (on : Name) (host : String) : Play (Report × List Fact) := do
  let _ ← value on
  let (c, resolver) ← connectorAt on
  resolveBy resolver
  let answer ← run (Connector.isResolvable host)
  return (.resolvable answer, ← connectorFacts c resolver)

def storeResult (name : Name) : Except ConnectError Connection → Play Report
  | .ok s => storeConnected name s
  | .error e => return .connectFailed e

def race (name : Name) (hosts : HostTable) (targets : List Alternate)
    (fallbackPort : UInt16) (cancel : Option Name) : Play (Report × List Fact) := do
  resolveBy (← hostTable hosts)
  let token ← cancel.mapM tokenNamed
  let result ← attempt (StreamTransport.Race.run targets fallbackPort token)
  let facts := [← resolvedFact]
  return (← storeResult name result, facts)

/-- Signals a token after a while, whatever happens in between. -/
def cancelLater (t : Cancellation) (ms : Nat) (p : Play Report) : Play Report := do
  let moment := (← now) + (Duration.ofMillis ms).nanos
  modify fun s =>
    match s.machine.serial? t.descriptor with
    | none => s
    | some serial => { s with machine := s.machine.schedule moment (.raise serial) }
  let report ← p
  modify fun s => { s with machine := s.machine.sleepUntil moment }
  return report

/-- A token of the scenario, or one made for a single connect. -/
def connectToken : Option Name → Play Cancellation
  | some name => tokenNamed name
  | none => do
    match ← attempt Cancellation.create with
    | .ok t => return t
    | .error cause => throw (.failed cause)

/-- Connects under a token of the scenario, or under one made for this connect alone. -/
def connectWithin (on name : Name) (target : Destination) (timeout : Option Duration)
    (cancel : Option Name) (cancelAfter : Option Nat) : Play Report := do
  let socket ← take on socket?
  let (address, t) ← orRelease (.socket socket) do
    return (← destination target, ← connectToken cancel)
  let connecting : Play Report := do
    storeResult name (← attempt (Socket.connectWithin socket address timeout t))
  let report ← match cancelAfter with
    | none => connecting
    | some ms => cancelLater t ms connecting
  if cancel.isNone then releaseToken t
  return report

end StreamTransport.Scenario
