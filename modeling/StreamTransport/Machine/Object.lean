import StreamTransport.System.Call

/-!
# What descriptors stand for

The objects of a simulated machine: sockets of three kinds, the null device, a
pipe whose writer is gone, counters and watches. Data under way between two
local sockets lies in pieces at the receiver. A piece takes room in the send
buffer of its sender until the last byte of it is received.
-/

set_option autoImplicit false

namespace StreamTransport.Machine

/-- Numbers the objects of a machine; none is used twice. -/
abbrev Serial := Nat

structure Piece where
  data : Bytes
  cost : Nat

namespace Piece

def page : Nat := 4096

/-- What fits in the page of a header beside its bookkeeping. -/
def headerRoom : Nat := 3776

/-- The most that one piece holds: a header and eight pages. -/
def largest : Nat := headerRoom + 8 * page

def roundUp (unit n : Nat) : Nat := (n + unit - 1) / unit * unit

/-- What a header takes: a power of two, and no more than a page. -/
def headerCost (bytes : Nat) : Nat :=
  if bytes ≤ 512 then 512
  else if bytes ≤ 1024 then 1024
  else if bytes ≤ 2048 then 2048
  else page

/-- What a piece of `size` bytes takes of the send buffer. What the header has no room for lies in
whole pages. -/
def costOf (size : Nat) : Nat :=
  let paged := min size (roundUp page (size - headerRoom))
  256 + headerCost (roundUp 64 (size - paged) + 320) + roundUp page paged

/-- Cuts data to be sent. -/
def cut (data : Bytes) : List Bytes :=
  (List.range ((data.length + largest - 1) / largest)).map fun i =>
    (data.drop (i * largest)).take largest

/-- The pieces that a send buffer still takes in when `used` of its `room` is taken. -/
def fitting (room used : Nat) : List Bytes → List Piece
  | [] => []
  | data :: rest =>
    if used < room then
      ⟨data, costOf data.length⟩ :: fitting room (used + costOf data.length) rest
    else []

def totalCost : List Piece → Nat
  | [] => 0
  | piece :: rest => piece.cost + totalCost rest

def totalSize : List Piece → Nat
  | [] => 0
  | piece :: rest => piece.data.length + totalSize rest

/-- Receives up to `size` bytes: those bytes, and what is left. -/
def receive (size : Nat) : List Piece → Bytes × List Piece
  | [] => ([], [])
  | piece :: rest =>
    if size = 0 then ([], piece :: rest)
    else if piece.data.length ≤ size then
      let (data, left) := receive (size - piece.data.length) rest
      (piece.data ++ data, left)
    else (piece.data.take size, { piece with data := piece.data.drop size } :: rest)

end Piece

/-- What a socket carries. -/
inductive Form where
  | stream
  | datagrams
  | packets
  deriving DecidableEq

inductive LocalRole where
  | idle
  | listening (backlog : Nat) (waiting : List Serial)
  | joined (peer : Serial) (peerName : Bytes)

/-- A socket of the Unix family. -/
structure LocalSocket where
  form : Form := .stream
  name : Bytes := []
  role : LocalRole := .idle
  inbox : List Piece := []
  receiveEnded : Bool := false
  sendEnded : Bool := false
  reset : Bool := false

structure TcpOptions where
  noDelay : Bool := false
  keepIdle : Nat := 7200
  keepCount : Nat := 9
  keepInterval : Nat := 75
  userTimeout : Nat := 0

/-- A socket of an internet family. Without a network it is never connected. `multipath` streams
use several paths at once; a `raw` socket has the packets of one protocol to itself. -/
structure NetSocket where
  form : Form := .stream
  name : SocketAddress
  multipath : Bool := false
  raw : Bool := false
  listening : Bool := false
  receiveEnded : Bool := false
  sendEnded : Bool := false
  tcp : TcpOptions := {}

/-- What a socket is for: the machine itself, the internet, the routes of the machine, the packets
of a link, or the machines beside it on the same host. -/
inductive Nature where
  | unix (socket : LocalSocket)
  | net (socket : NetSocket)
  | routing
  | link
  | host

/-- One target of a watch. -/
structure Registration where
  target : Serial
  interest : Interest

inductive Resource where
  | device
  | pipe
  | counter (value : Nat)
  | watch (registrations : List Registration)
  | socket (keepAlive : Bool) (receiveBuffer : Nat) (nature : Nature)

structure Object where
  nonblocking : Bool := false
  resource : Resource

/-- The receive buffer of a socket that nobody has asked for another. -/
def Nature.defaultBuffer : Nature → Nat
  | net { form := .stream, .. } => 131072
  | _ => 212992

def Object.ofSocket (nature : Nature) : Object :=
  { resource := .socket false nature.defaultBuffer nature }

end StreamTransport.Machine
