import StreamTransport.Proofs.Connect.Requests
import StreamTransport.Proofs.Connect.Runs

/-!
# The client address

A sequence asks for the local address of its socket and remembers it before it
is over. So what a connector remembers is the latest local address that the
kernel has told, of a socket that was returned or of one that was given up.
-/

set_option autoImplicit false

namespace StreamTransport

open Program

/-- The descriptor whose local address was asked for, and the internet address that was told. -/
def Event.named? : Event → Option (Descriptor × Option IpText)
  | ⟨.localName d, answer⟩ => some (d, Connector.ipOf answer)
  | _ => none

section

variable {s : Option (Descriptor × Option IpText)}

end

namespace Connector

variable {c : Connector} {endpoint : String} {port : UInt32} {timeout : Option Duration}

/-- The internet address that was told last. -/
def told (s : Option (Descriptor × Option IpText)) : Option IpText := s.bind Prod.snd

/-- What can fail once the local address is remembered. -/
def FailsLate (e : ConnectError) : Prop :=
  e = .cancelled ∨
    ∃ errno, e = .configure (.socket (.setOption errno SocketOption.receiveBuffer.name))

/-- How a call ends, and what was told last. -/
structure Tells (c : Connector) (r : Except ConnectError Connection) (c' : Connector)
    (s : Option (Descriptor × Option IpText)) : Prop where
  remembered : c'.clientAddress = (told s).or c.clientAddress
  connected : ∀ socket, r = .ok socket →
    if socket.family = .vsock then told s = none
    else ∃ ip, s = some (socket.descriptor, some ip)
  failed : ∀ e, r = .error e → told s = none ∨ FailsLate e

theorem Tells.of_ok {socket : Connection} {c' : Connector} {s : Option (Descriptor × Option IpText)}
    (remembered : c'.clientAddress = (told s).or c.clientAddress)
    (family : if socket.family = .vsock then told s = none
      else ∃ ip, s = some (socket.descriptor, some ip)) : Tells c (.ok socket) c' s where
  remembered := remembered
  connected := by
    rintro _ ⟨⟩
    exact family
  failed := by simp

theorem Tells.of_error {e : ConnectError} {c' : Connector}
    {s : Option (Descriptor × Option IpText)}
    (remembered : c'.clientAddress = (told s).or c.clientAddress)
    (late : told s = none ∨ FailsLate e) : Tells c (.error e) c' s where
  remembered := remembered
  connected := by simp
  failed := by
    rintro _ ⟨⟩
    exact late

/-- A call of connect, what happened in it and how it ended. -/
structure Visit where
  endpoint : String
  port : UInt32
  timeout : Option Duration
  events : List Event
  result : Except ConnectError Connection

/-- Calls of connect, one after the other. -/
inductive History : Connector → List Visit → Connector → Prop
  | nil (c : Connector) : History c [] c
  | cons {c c' c'' : Connector} {v : Visit} {visits : List Visit}
      (runs : Runs (c.connect v.endpoint v.port v.timeout) v.events (v.result, c'))
      (rest : History c' visits c'') : History c (v :: visits) c''

namespace Visit

/-- What a call was told last, whatever the socket. -/
def told (v : Visit) : Option IpText :=
  Connector.told ((latest Event.named?).after none v.events)

/-- What a call was told last of a descriptor. -/
def localAddress (v : Visit) (d : Descriptor) : Option IpText :=
  Connector.told ((latest fun e => e.named?.filter (·.1 = d)).after none v.events)

/-- The local address of the socket that a call returned, of a VSOCK socket none. -/
def returned (v : Visit) : Option IpText :=
  match v.result with
  | .ok socket => if socket.family = .vsock then none else v.localAddress socket.descriptor
  | .error _ => none

end Visit

end Connector
end StreamTransport
