import StreamTransport.Machine.Files

/-!
# Local sockets

Streams between two sockets of the Unix family. A connect to a listener joins
the socket with a new one that waits to be accepted; a listener has room for
one more than its backlog. What is sent lies at the other end until it is
received there.

An end that goes away ends both directions of the other one. If it had data
that nobody received, or was never accepted, the other end is reset: its next
receive fails once. A listener that receives no more refuses connects.
-/

set_option autoImplicit false

namespace StreamTransport.Machine

def sendBuffer : Nat := 212992

/-- What the data on its way from a socket takes of its send buffer. -/
def inFlight (m : Machine) (socket : LocalSocket) : Nat :=
  match socket.role with
  | .joined peer _ => ((m.localSocket? peer).map fun p => Piece.totalCost p.inbox).getD 0
  | _ => 0

/-- Whether the send buffer is empty enough for the socket to be reported writable. -/
def isWritable (m : Machine) (socket : LocalSocket) : Bool :=
  match socket.role with
  | .listening _ _ => false
  | _ => 4 * (m.inFlight socket + 1) ≤ sendBuffer

/-- Two new sockets joined with each other. -/
def pair (m : Machine) : Serial × Serial × Machine :=
  let (a, m) := create (.ofSocket (.unix {})) m
  let (b, m) := create (.ofSocket (.unix { role := .joined a [] })) m
  (a, b, m.updateLocal a fun u => { u with role := .joined b [] })

/-- The listener that a path leads to. -/
def listenerAt (m : Machine) (path : Bytes) (form : Form) :
    Except Errno (Serial × LocalSocket × Nat × List Serial) :=
  if path = [] then .error .connectionRefused
  else
    match m.fileOf path with
    | .error errno => .error errno
    | .ok (.socketFile owner) =>
      match m.localSocket? owner with
      | none => .error .connectionRefused
      | some socket =>
        if socket.form ≠ form then .error .wrongType
        else
          match socket.role with
          | .listening backlog waiting =>
            if socket.receiveEnded then .error .connectionRefused
            else .ok (owner, socket, backlog, waiting)
          | _ => .error .connectionRefused
    | .ok (.directory (some errno)) => .error errno
    | .ok _ => .error .connectionRefused

/-- How many connects can wait at a listener that asks for as many as there can be. -/
def longestBacklog : Nat := 4096

/-- A new listener, and the socket file that leads to it. -/
def listen (path : Bytes) : Operation Descriptor := do
  let place ← ExceptT.mk (pure ((← get).newPlace path))
  let listener : LocalSocket := { name := path, role := .listening longestBacklog [] }
  let s ← modifyGet (create (.ofSocket (.unix listener)))
  modify fun m => { m with socketFiles := m.socketFiles ++ [(place, s)] }
  assign s

/-- Joins an idle socket with a listener. -/
def connectLocal (s : Serial) (client : LocalSocket) (path : Bytes) : Operation Unit := do
  let (owner, listener, backlog, waiting) ← ExceptT.mk (pure ((← get).listenerAt path client.form))
  if backlog < waiting.length then throw .tryAgain
  match client.role with
  | .joined _ _ => throw .alreadyConnected
  | .listening _ _ => throw .invalidArgument
  | .idle =>
    let server : LocalSocket :=
      { form := client.form, name := listener.name, role := .joined s client.name }
    let embryo ← modifyGet (create (.ofSocket (.unix server)))
    modify fun m =>
      (m.updateLocal s fun u => { u with role := .joined embryo listener.name }).updateLocal owner
        fun u => { u with role := .listening backlog (waiting ++ [embryo]) }

/-- Takes the socket that has waited longest, and opens it. -/
def accept (d : Descriptor) : Operation Descriptor := do
  let _ ← find d
  requireRoom 1
  let (s, nature) ← findSocket d
  match nature with
  | .unix { role := .listening backlog (first :: rest), .. } =>
    let accepted ← assign first
    modify fun m => m.updateLocal s fun u => { u with role := .listening backlog rest }
    return accepted
  | .unix { role := .listening _ [], receiveEnded := false, .. } => throw .tryAgain
  | .net { listening := true, .. } => throw .tryAgain
  | .unix { form := .datagrams, .. } => throw .notSupported
  | .net { form := .datagrams, .. } => throw .notSupported
  | .routing => throw .notSupported
  | .link => throw .notSupported
  | _ => throw .invalidArgument

/-- The largest datagram that a send buffer has room for. -/
def largestDatagram : Nat := sendBuffer - 32

/-- Takes in as much as the send buffer has room for. -/
def sendLocal (socket : LocalSocket) (data : Bytes) : Operation Nat := do
  match socket.role with
  | .joined peer _ =>
    if socket.sendEnded then throw .brokenPipe
    let m ← get
    match m.localSocket? peer with
    | none => throw .brokenPipe
    | some other =>
      if other.receiveEnded then throw .brokenPipe
      let pieces := Piece.fitting sendBuffer (Piece.totalCost other.inbox) (Piece.cut data)
      if pieces.isEmpty then throw .tryAgain
      set (m.updateLocal peer fun u => { u with inbox := u.inbox ++ pieces })
      return Piece.totalSize pieces
  | _ =>
    if socket.form = .datagrams then
      if largestDatagram < data.length then throw .messageTooLong
      if socket.sendEnded then throw .brokenPipe
    throw .notConnected

/-- What receiving a datagram comes to where none can come: a socket that blocks learns of the
end, and one that does not is told to try again. -/
def receiveNone (nonblocking receiveEnded : Bool) : Operation Bytes :=
  if receiveEnded && !nonblocking then return [] else throw .tryAgain

/-- Receives what is there, and learns of a reset or of the end only when nothing is. -/
def receiveLocal (s : Serial) (socket : LocalSocket) (nonblocking : Bool) (size : Nat)
    (keep : Bool) : Operation Bytes := do
  match socket.form, socket.role with
  | .datagrams, _ => receiveNone nonblocking socket.receiveEnded
  | .packets, .idle => throw .notConnected
  | _, .joined _ _ =>
    if socket.inbox.isEmpty then
      if socket.reset then
        modify fun m => m.updateLocal s fun u => { u with reset := false }
        throw .connectionReset
      else if socket.receiveEnded then return []
      else throw .tryAgain
    else
      let (data, left) := Piece.receive size socket.inbox
      unless keep do modify fun m => m.updateLocal s fun u => { u with inbox := left }
      return data
  | _, _ => throw .invalidArgument

/-- The other end learns that this one neither sends nor receives any more as given. -/
def endDirections (m : Machine) (s : Serial) (receiving sending : Bool) : Machine :=
  let ended (receiving sending : Bool) (u : LocalSocket) : LocalSocket :=
    { u with
      receiveEnded := u.receiveEnded || receiving
      sendEnded := u.sendEnded || sending }
  let after := m.updateLocal s (ended receiving sending)
  match m.localSocket? s with
  | some { role := .joined peer _, .. } => after.updateLocal peer (ended sending receiving)
  | _ => after

/-- Lets a socket go. -/
def leave (m : Machine) (s : Serial) (abrupt : Bool) : Machine :=
  match m.localSocket? s with
  | some { role := .joined peer _, inbox, .. } =>
    ((m.endDirections s true true).updateLocal peer fun u =>
      { u with reset := u.reset || abrupt || !inbox.isEmpty }).discard s
  | _ => m.discard s

/-- Closes a descriptor, and with a listener all that waits to be accepted. -/
def close (m : Machine) (d : Descriptor) : Machine :=
  match m.serial? d with
  | none => m
  | some s =>
    let waiting := match m.localSocket? s with
      | some { role := .listening _ waiting, .. } => waiting
      | _ => []
    let m := { m with table := m.table.filter fun entry => entry.1 ≠ d }
    (waiting.foldl (fun m embryo => m.leave embryo true) m).leave s false

end StreamTransport.Machine
