import StreamTransport.Machine.Local

/-!
# Sockets of a simulated machine

Which sockets can be created, where they can be connected, what names they
have, and what receiving and sending does to them. There is no network: a
connect to an internet address finds no route, and to a version 6 address no
source address. Shutting down a socket that is not connected is refused, and
still ends the directions that were named.
-/

set_option autoImplicit false

namespace StreamTransport.Machine

/-- Socket types are below this number. -/
def typeLimit : Int := 11

/-- A type without the flags that came with it, and whether it is not to block. One flag is for
that, another closes the descriptor when a program is started, and no other is known. -/
def splitType (sockType : Int) : Except Errno (Int × Bool) :=
  let kind := sockType % 16
  let flags := sockType - kind
  if flags = 0 ∨ flags = 0x80000 then .ok (kind, false)
  else if flags = 0x800 ∨ flags = 0x80800 then .ok (kind, true)
  else .error .invalidArgument

/-- Protocols are below this number. -/
def protocolLimit : Int := 263

def udpProtocol : Int := 17

def udpLiteProtocol : Int := 136

def multipathProtocol : Int := 262

/-- The protocol of the echo requests of a family, which nobody is allowed to send. -/
def echoProtocol : SocketAddress → Int
  | .inet6 _ => 58
  | _ => 1

def unnamed : SocketAddress := .inet ⟨.unspecified, 0⟩

def unnamed6 : SocketAddress := .inet6 ⟨.unspecified, 0, 0, 0⟩

/-- A socket of an internet family, or why there is none. -/
def newNet (name : SocketAddress) (kind protocol : Int) : Except Errno NetSocket :=
  if protocol < 0 ∨ protocolLimit ≤ protocol then .error .invalidArgument
  else if kind = 1 then
    if protocol = 0 ∨ protocol = Numeric.tcpProtocol then .ok { name }
    else if protocol = multipathProtocol then .ok { name, multipath := true }
    else .error .protocolNotSupported
  else if kind = 2 then
    if protocol = 0 ∨ protocol = udpProtocol ∨ protocol = udpLiteProtocol then
      .ok { name, form := .datagrams }
    else if protocol = echoProtocol name then .error .permissionDenied
    else .error .protocolNotSupported
  else if kind = 3 then
    if protocol = 0 then .error .protocolNotSupported
    else
      let port := UInt16.ofNat protocol.toNat
      .ok { name := Resolver.withPort port name, form := .datagrams, raw := true }
  else .error .socketTypeNotSupported

/-- What a socket of the Unix family carries, or why there is none. -/
def localForm (kind protocol : Int) : Except Errno Form :=
  if protocol ≠ 0 ∧ protocol ≠ 1 then .error .protocolNotSupported
  else if kind = 1 then .ok .stream
  else if kind = 2 ∨ kind = 3 then .ok .datagrams
  else if kind = 5 then .ok .packets
  else .error .socketTypeNotSupported

/-- A socket to the other machines of the host, or why there is none. -/
def newHost (kind protocol : Int) : Except Errno Nature :=
  if protocol ≠ 0 ∧ protocol ≠ Family.vsock.number then .error .protocolNotSupported
  else if kind = 1 ∨ kind = 5 then .ok .host
  else if kind = 2 then .error .noDevice
  else .error .socketTypeNotSupported

/-- The type of version 4 of the internet protocol that stands for the packets of a link. -/
def linkType : Int := 10

def newSocket (family : Family) (kind protocol : Int) : Except Errno Nature :=
  if typeLimit ≤ kind then .error .invalidArgument
  else
    match family with
    | .inet => if kind = linkType then .ok .link else (newNet unnamed kind protocol).map .net
    | .inet6 => (newNet unnamed6 kind protocol).map .net
    | .unix => (localForm kind protocol).map fun form => .unix { form }
    | .vsock => newHost kind protocol

/-- The arguments are looked at before a descriptor is needed. -/
def socket (family : Family) (sockType protocol : Int) : Operation Descriptor := do
  let (kind, nonblocking) ← ExceptT.mk (pure (splitType sockType))
  let nature ← ExceptT.mk (pure (newSocket family kind protocol))
  install { Object.ofSocket nature with nonblocking }

/-- Whether an address means something on one link only. -/
def isLinkLocal (ip : Ipv6) : Bool :=
  match ip.octets with
  | first :: second :: _ => first = 0xFE && second.toNat / 64 = 2
  | _ => false

def isMulticast (ip : Ipv6) : Bool := ip.octets.head? = some 0xFF

/-- Whether a group has its members on one link, or on one node, only. -/
def isNearGroup (ip : Ipv6) : Bool :=
  match ip.octets with
  | first :: second :: _ => first = 0xFF && (second.toNat % 16 = 1 || second.toNat % 16 = 2)
  | _ => false

/-- Why an internet socket cannot be connected to an address. -/
def netRefusal (socket : NetSocket) (address : SocketAddress) : Errno :=
  match socket.name, address with
  | .inet _, .inet _ => .networkUnreachable
  | .inet _, _ => .familyNotSupported
  | _, .inet6 a =>
    if a.ip.isMapped ∨ (socket.form = .stream ∧ isMulticast a.ip) then .networkUnreachable
    else if (isLinkLocal a.ip ∨ isNearGroup a.ip) ∧ a.scope = 0 then .invalidArgument
    else .addressNotAvailable
  | _, .inet _ =>
    if socket.raw then .familyNotSupported
    else if socket.form = .stream then .invalidArgument
    else .networkUnreachable
  | _, .vsock _ => if socket.raw then .familyNotSupported else .invalidArgument
  | _, .unix _ => .familyNotSupported

def connect (d : Descriptor) (raw : Bytes) : Operation Unit := do
  let (s, nature) ← findSocket d
  match nature, SocketAddress.decode? ⟨raw, raw.length⟩ with
  | _, none => throw .familyNotSupported
  | .net socket, some address => throw (netRefusal socket address)
  | .unix socket, some (.unix a) => connectLocal s socket a.path
  | .unix _, some _ => throw .invalidArgument
  | .routing, some _ => throw .invalidArgument
  | .link, some _ => throw .notSupported
  | .host, some (.vsock _) => throw .noDevice
  | .host, some _ => throw .invalidArgument

/-- The name of a local socket. One without a name has the family number alone. -/
def localNameOf (path : Bytes) : KernelAddress :=
  let storage := SocketAddress.familyBytes .unix ++ path ++ if path = [] then [] else [0]
  ⟨storage, storage.length⟩

/-- The name of a routing socket, which is of no family that a stream can have. -/
def routingName : KernelAddress := ⟨16 :: List.replicate 11 0, 12⟩

/-- The name of a socket for the packets of a link. -/
def linkName : KernelAddress := ⟨17 :: List.replicate 17 0, 18⟩

def nameOf (address : SocketAddress) : KernelAddress :=
  let storage := address.encode?.getD []
  ⟨storage, storage.length⟩

def localName (d : Descriptor) : Operation KernelAddress := do
  match (← findSocket d).2 with
  | .net socket => return nameOf socket.name
  | .unix socket => return localNameOf socket.name
  | .routing => return routingName
  | .link => return linkName
  | .host => return nameOf (.vsock ⟨0xFFFFFFFF, 0xFFFFFFFF⟩)

def peerName (d : Descriptor) : Operation KernelAddress := do
  match (← findSocket d).2 with
  | .net _ => throw .notConnected
  | .unix { role := .joined _ name, .. } => return localNameOf name
  | .unix _ => throw .notConnected
  | .routing => return routingName
  | .link => throw .notSupported
  | .host => throw .notConnected

def receive (d : Descriptor) (size : Nat) (keep : Bool) : Operation Bytes := do
  let (s, object) ← find d
  match object.resource with
  | .socket _ _ (.unix socket) => receiveLocal s socket object.nonblocking size keep
  | .socket _ _ (.net { form := .stream, receiveEnded, .. }) =>
    if receiveEnded then return [] else throw .notConnected
  | .socket _ _ (.net socket) => receiveNone object.nonblocking socket.receiveEnded
  | .socket _ _ .routing => throw .tryAgain
  | .socket _ _ .link => throw .tryAgain
  | .socket _ _ .host => throw .notConnected
  | _ => throw .notSocket

/-- The largest datagram of version 4 of the internet protocol. -/
def largestPacket : Nat := 65535

/-- A routing socket takes in any message, and answers none that asks for nothing. -/
def send (d : Descriptor) (data : Bytes) : Operation Nat := do
  match (← findSocket d).2 with
  | .unix socket => sendLocal socket data
  | .net { form := .stream, .. } => throw .brokenPipe
  | .net { name := .inet _, .. } =>
    throw (if largestPacket < data.length then .messageTooLong else .destinationRequired)
  | .net _ => throw .destinationRequired
  | .routing =>
    if largestDatagram < data.length then throw .messageTooLong
    return data.length
  | .link => throw .notConnected
  | .host => throw .notConnected

/-- Reads as from a file: nothing comes from a device or from a pipe without a writer. -/
def read (d : Descriptor) (size : Nat) : Operation Bytes := do
  match (← find d).2.resource with
  | .device => return []
  | .pipe => return []
  | .socket _ _ _ => receive d size false
  | _ => throw .invalidArgument

/-- Writes as to a file: devices and pipes are open for reading alone. -/
def write (d : Descriptor) (data : Bytes) : Operation Nat := do
  match (← find d).2.resource with
  | .device => throw .badDescriptor
  | .pipe => throw .badDescriptor
  | .socket _ _ _ => send d data
  | _ => throw .invalidArgument

def shutdown (d : Descriptor) (receiving sending : Bool) : Operation Unit := do
  let (s, nature) ← findSocket d
  match nature with
  | .unix _ => modify fun m => m.endDirections s receiving sending
  | .net { listening := true, .. } =>
    if receiving then modify fun m => m.updateNet s fun n => { n with listening := false }
  | .net _ =>
    modify fun m => m.updateNet s fun n =>
      { n with
        receiveEnded := n.receiveEnded || receiving
        sendEnded := n.sendEnded || sending }
    throw .notConnected
  | .routing => throw .notSupported
  | .link => throw .notSupported
  | .host => throw .notConnected

end StreamTransport.Machine
