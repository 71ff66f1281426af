import StreamTransport.Scenario.Step

/-!
# Reports of a scenario

What a step has to report, and facts that stand beside it: the state of a
queue, what a connector remembers, what the resolver was asked.
-/

set_option autoImplicit false

namespace StreamTransport.Scenario

/-- An address, and the endpoint of the scenario that has exactly this address. -/
structure NamedAddress where
  address : SocketAddress
  endpoint : Option Name

structure SocketReport where
  kind : ConnectionKind
  family : Family
  nonblocking : Outcome Bool
  noDelay : Outcome Bool
  keepAlive : Outcome Bool
  enoughBuffer : Outcome Bool
  tcpOptions : List (Option Int)
  localName : Outcome NamedAddress
  peerName : Outcome NamedAddress

structure LayerReport where
  family : Family
  kind : ConnectionKind
  nonblocking : Outcome Bool
  peerText : Outcome String
  peerName : Outcome NamedAddress
  watchable : Bool

structure StreamReport where
  closed : Bool
  nonblocking : Outcome Bool
  localName : Outcome NamedAddress
  peerName : Outcome NamedAddress
  peerText : Outcome String
  signaled : Option Bool

/-- How reading at a peer ended. -/
inductive Ending where
  | full
  | endOfStream
  | quiet
  deriving DecidableEq

inductive Report where
  | done
  | nothing
  | refused (why : Refusal)
  | failed (cause : Failure)
  | connectFailed (cause : ConnectError)
  | flag (b : Bool)
  | number (n : Nat)
  | tcpOptions (values : List (Option Int))
  | accepted (b : Bool)
  | received (data : Option Bytes) (ending : Ending)
  | targets (count : Nat)
  | resolvable (b : Bool)
  | created (family : Family) (nonblocking : Outcome Bool)
  | started (nonblocking : Outcome Bool)
  | pendingError (cause : Option Failure)
  | wrapped (family : Family) (kind : ConnectionKind)
  | closed (b : Bool)
  | wrote (progress : Progress Nat)
  | read (progress : Progress Bytes)
  | ready (b : Bool)
  | index (i : Option Nat)
  | socket (report : SocketReport)
  | layer (report : LayerReport)
  | stream (report : StreamReport)

/-- A port that was asked for, by the endpoint it belongs to where there is one. -/
inductive AskedPort where
  | none
  | number (port : UInt16)
  | ofEndpoint (name : Name)

inductive Fact where
  | queued (b : Bool)
  | writeBlocked (b : Bool)
  | readBlocked (b : Bool)
  | pending (count : Nat)
  | received (data : Bytes)
  | lastError (code : Option ErrorCode)
  | clientAddress (ip : Option IpText)
  | resolved (questions : List (String × AskedPort))
  | stillOpen (b : Bool)
  | fullTime (b : Bool)

structure Entry where
  report : Report
  facts : List Fact := []
  notices : List Notice := []

end StreamTransport.Scenario
