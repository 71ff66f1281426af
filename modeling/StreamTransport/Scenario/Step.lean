import StreamTransport.Settings.Basic
import StreamTransport.Socket.Basic

/-!
# Steps of a scenario

A scenario drives the library on a simulated machine. Its steps name the values
they use and the values they make. Some set the stage, the rest call the
library.
-/

set_option autoImplicit false

namespace StreamTransport.Scenario

abbrev Name := String

/-- Where a socket that sets the stage is bound. -/
inductive Site where
  | loopback
  | loopback6
  | unix
  deriving DecidableEq

/-- Plain descriptors of every kind. -/
inductive Oddity where
  | device
  | pipe
  | datagrams
  | datagrams6
  | routing
  | tcp
  | unix
  | unixDatagrams
  deriving DecidableEq

/-- The address of an endpoint of the scenario, or an address given outright. -/
inductive Destination where
  | endpoint (name : Name)
  | fixed (address : SocketAddress)

/-- An address, and what differs from the candidate it makes by itself. -/
structure CandidateSpec where
  destination : Destination
  family : Option Family := none
  sockType : Option Int := none
  protocol : Option Int := none

def CandidateSpec.candidate (spec : CandidateSpec) (address : SocketAddress) : Candidate :=
  let plain := Candidate.stream address
  { address
    family := spec.family.getD plain.family
    sockType := spec.sockType.getD plain.sockType
    protocol := spec.protocol.getD plain.protocol }

abbrev HostTable := List (String × List CandidateSpec)

inductive PortSpec where
  | number (port : UInt32)
  | ofEndpoint (name : Name)
  | descriptor (name : Name)

/-- An option to be set, with its value. -/
inductive Setting where
  | flag (option : SocketOption) (enabled : Bool)
  | value (option : SocketOption) (value : Nat)
  | atLeast (receiveBuffer : Nat)
  | keepAlive (settings : KeepAlive) (ackTimeoutMs : UInt32)

inductive Reading where
  | flag (option : SocketOption)
  | receiveBuffer
  | enoughBuffer
  | tcpOptions

/-- What a sequence connects to: as spelled out, or a file of the private directory. -/
inductive EndpointSpec where
  | spelled (text : String)
  | privateFile (name : String)

/-- A connect sequence and its arguments. -/
structure Sequence where
  endpoint : EndpointSpec
  port : PortSpec
  timeout : Option Duration

inductive Step where
  | listen (name : Name) (site : Site)
  | bound (name : Name) (site : Site)
  | accept (on name : Name) (ms : Nat)
  | hold (name endpoint : Name)
  | pair (name peer : Name)
  | tcpPair (name peer : Name)
  | oddity (name : Name) (kind : Oddity)
  | peerWrite (on : Name) (data : Bytes)
  | peerRead (on : Name) (size ms : Nat) (discard : Bool)
  | peerShutdown (on : Name) (writeOnly : Bool)
  | peerReset (on : Name)
  | drop (on : Name)
  | room (more : Option Nat)
  | token (name : Name) (copyOf : Option Name)
  | cancel (on : Name)
  | isCancelled (on : Name)
  | connector (name : Name) (settings : Settings) (hosts : HostTable) (cancel : Option Name)
  | systemConnector (name : Name) (settings : Settings)
  | openSocket (on name : Name) (sequence : Sequence)
  | openLayer (on name : Name) (sequence : Sequence)
  | resolvable (on : Name) (host : String)
  | race (name : Name) (hosts : HostTable) (targets : List Alternate)
      (fallbackPort : UInt16) (cancel : Option Name)
  | connectWithin (on name : Name) (target : Destination) (timeout : Option Duration)
      (cancel : Option Name) (cancelAfter : Option Nat)
  | socket (name : Name) (family : Family) (sockType protocol : Int)
  | connect (on name : Name) (target : Destination) (kind : ConnectionKind)
  | startConnect (on name : Name) (target : Destination)
  | pendingError (on : Name)
  | checkReset (on : Name)
  | finish (on name : Name) (kind : ConnectionKind)
  | adoptOrClose (on name : Name)
  | adopt (on name : Name)
  | adoptNumber (number : Int) (name : Name)
  | release (on name : Name)
  | info (on : Name)
  | set (on : Name) (setting : Setting)
  | get (on : Name) (reading : Reading)
  | startWatch (on name : Name) (interest : Interest)
  | changeWatch (on : Name) (interest : Interest)
  | stopWatch (on : Name)
  | isRaised (on : Name)
  | waitSignal (on : Name) (ms : Nat)
  | waitMany (on : List Name) (timeout : Option Duration) (signals : Option Nat)
  | waitOne (on : Name) (direction : Direction) (timeout : Duration) (signals : Option Nat)
  | raw (on name : Name)
  | layer (on name : Name)
  | buffer (on name : Name)
  | unbuffer (on name : Name)
  | read (on : Name) (size : Nat)
  | write (on : Name) (data : Bytes)
  | fill (on : Name)
  | flush (on : Name)
  | pump (on peer : Name) (size : Nat)
  | close (on : Name)
  | wait (on : Name) (direction : Direction) (timeout : Duration)
  | nonblocking (on : Name) (mode : Bool)
  | state (on : Name)
  | pending (on : Name)

/-- Why a step cannot be played. -/
inductive Refusal where
  | noHandle (name : Name)
  | noToken (name : Name)
  | noDescriptor (name : Name)
  | noEndpoint (name : Name)
  | noPort (name : Name)
  | notStream
  | notConnector
  | failed (cause : Failure)

def Refusal.message : Refusal → String
  | noHandle name => "no handle " ++ name
  | noToken name => "no token " ++ name
  | noDescriptor name => name ++ " has no descriptor"
  | noEndpoint name => "no endpoint " ++ name
  | noPort name => "no port of " ++ name
  | notStream => "not a stream"
  | notConnector => "not a connector"
  | failed cause => cause.message

end StreamTransport.Scenario
