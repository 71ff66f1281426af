import StreamTransport.Resolution

/-!
# Settings of connection establishment

Keep-alive timing, the time data may stay unacknowledged, the family policy,
and the alternate targets with the two switches that decide whether they are
raced. Each setter replaces one field and keeps the others.
-/

set_option autoImplicit false

namespace StreamTransport

structure KeepAlive where
  enabled : Bool := true
  idleSecs : UInt32 := 5
  retries : UInt32 := 3
  intervalSecs : UInt32 := 2
  deriving DecidableEq, Repr

namespace KeepAlive

def disabled : KeepAlive := { enabled := false }

def withIdle (k : KeepAlive) (secs : UInt32) : KeepAlive := { k with idleSecs := secs }

def withInterval (k : KeepAlive) (secs : UInt32) : KeepAlive := { k with intervalSecs := secs }

def withRetries (k : KeepAlive) (count : UInt32) : KeepAlive := { k with retries := count }

end KeepAlive

/-- An alternate target; without a port it is tried on the port that was asked for. -/
structure Alternate where
  host : String
  port : Option UInt16 := none
  deriving DecidableEq, Repr

structure Settings where
  keepAlive : KeepAlive := {}
  ackTimeoutMs : UInt32 := 9000
  preferIpv6 : Bool := false
  forceFamily : Option IpVersion := none
  gatewayEnabled : Bool := false
  remoteAssistance : Bool := false
  targets : List Alternate := []
  deriving DecidableEq, Repr

namespace Settings

def withKeepAlive (s : Settings) (k : KeepAlive) : Settings := { s with keepAlive := k }

def withAckTimeoutMs (s : Settings) (ms : UInt32) : Settings := { s with ackTimeoutMs := ms }

def withPreferIpv6 (s : Settings) (on : Bool) : Settings := { s with preferIpv6 := on }

def withForceFamily (s : Settings) (forced : Option IpVersion) : Settings :=
  { s with forceFamily := forced }

def withGatewayEnabled (s : Settings) (on : Bool) : Settings := { s with gatewayEnabled := on }

def withRemoteAssistance (s : Settings) (on : Bool) : Settings :=
  { s with remoteAssistance := on }

/-- Targets are kept in the order in which they were added. -/
def addTarget (s : Settings) (target : Alternate) : Settings :=
  { s with targets := s.targets ++ [target] }

def addressPolicy (s : Settings) : AddressPolicy := ⟨s.preferIpv6, s.forceFamily⟩

end Settings
end StreamTransport
