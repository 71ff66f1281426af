import StreamTransport.Socket.Basic
import StreamTransport.Stream.Basic
import StreamTransport.Wait

/-!
# Raw streams and transport layers

A connected socket driven without blocking. The stream owns the descriptor and
a watch for incoming data and for the peer's closing. Both are given
up at the first close, and every operation after that fails as closed.

A read or write of no bytes moves none and asks nothing of the system.

What stands above the socket sees a transport layer of it: reads, writes,
bounded waits, one close, and the watch by which an outer loop learns of
incoming data.
-/

set_option autoImplicit false

namespace StreamTransport

structure RawStream where
  descriptor : Option Descriptor
  watch : Option Watch
  family : Family
  kind : ConnectionKind
  deriving DecidableEq, Repr

namespace RawStream

open Program

/-- Takes a connected socket over, and closes it on failure. -/
def ofSocket (socket : Connection) : Attempt Failure RawStream :=
  Attempt.orElseClean (do
    socket.descriptor.setNonblocking true
    let watch ← Watch.create socket.descriptor { read := true, close := true }
    return ⟨some socket.descriptor, some watch, socket.family, socket.kind⟩)
    socket.descriptor.close

/-- The descriptor, while the stream is open. -/
def openDescriptor (s : RawStream) : Attempt Failure Descriptor :=
  match s.descriptor with
  | some d => pure d
  | none => throw (.stream .closed)

def isClosed (s : RawStream) : Bool := s.descriptor.isNone

def read (s : RawStream) (size : Nat) : Attempt Failure (Progress Bytes) := do
  let d ← s.openDescriptor
  if size = 0 then return .moved []
  match ← Attempt.always (perform (.receive d size)) with
  | .ok [] => return .endOfStream
  | .ok data => return .moved data
  | .error errno =>
    if errno.isTransient then return .wouldBlock else throw (.stream (.read errno))

def write (s : RawStream) (data : Bytes) : Attempt Failure (Progress Nat) := do
  let d ← s.openDescriptor
  if data.isEmpty then return .moved 0
  match ← Attempt.always (perform (.send d data)) with
  | .ok n => return .moved n
  | .error errno =>
    if errno.isTransient then return .wouldBlock else throw (.stream (.write errno))

def wait (s : RawStream) (direction : Direction) (timeout : Duration) :
    Attempt Failure Readiness := do
  Wait.one (← s.openDescriptor) direction timeout

def setNonblocking (s : RawStream) (nonblocking : Bool) : Attempt Failure Unit := do
  (← s.openDescriptor).setNonblocking nonblocking

def isNonblocking (s : RawStream) : Attempt Failure Bool := do
  (← s.openDescriptor).isNonblocking

def localAddress (s : RawStream) : Attempt Failure SocketAddress := do
  (← s.openDescriptor).localAddress

def peerAddress (s : RawStream) : Attempt Failure SocketAddress := do
  (← s.openDescriptor).peerAddress

/-- The peer as text: the bare internet address where it has one. -/
def peerText (s : RawStream) : Attempt Failure String := do
  let address ← s.peerAddress
  return (address.ipText?.map IpText.ip).getD address.text

/-- Ends both directions. That there is nothing to end is no news. -/
def shutDown (d : Descriptor) : Program Unit := do
  match ← perform (.shutdown d) with
  | .ok () => pure ()
  | .error errno =>
    if errno = .notConnected then pure () else Journal.note (.shutdownFailed errno)

/-- Gives up the watch and then the socket. A closed stream stays as it is. -/
def close (s : RawStream) : Program RawStream := do
  if let some w := s.watch then w.close
  if let some d := s.descriptor then
    shutDown d
    d.close
  return { s with descriptor := none, watch := none }

instance : StreamStatus RawStream where
  unsent _ := 0
  readBlocked _ := false
  writeBlocked _ := false
  watchable s := s.watch.isSome

/-- An operation that leaves the stream as it is. -/
def keeping {α : Type} (s : RawStream) (p : Attempt Failure α) :
    Program (Outcome α × RawStream) := do
  return (← p.run, s)

instance : Duplex Program RawStream where
  read s size := s.keeping (s.read size)
  write s data := s.keeping (s.write data)
  flush s := s.keeping (pure ())
  wait s direction timeout := s.keeping (s.wait direction timeout)
  setNonblocking s nonblocking := s.keeping (s.setNonblocking nonblocking)

end RawStream

structure Layer where
  stream : RawStream
  deriving DecidableEq, Repr

namespace Layer

def ofSocket (socket : Connection) : Attempt Failure Layer := do
  return ⟨← RawStream.ofSocket socket⟩

def isClosed (l : Layer) : Bool := l.stream.isClosed

def read (l : Layer) (size : Nat) : Attempt Failure (Progress Bytes) := l.stream.read size

def write (l : Layer) (data : Bytes) : Attempt Failure (Progress Nat) := l.stream.write data

def wait (l : Layer) (direction : Direction) (timeout : Duration) : Attempt Failure Readiness :=
  l.stream.wait direction timeout

def close (l : Layer) : Program Layer := do return ⟨← l.stream.close⟩

def watch? (l : Layer) : Option Watch := l.stream.watch

end Layer
end StreamTransport
