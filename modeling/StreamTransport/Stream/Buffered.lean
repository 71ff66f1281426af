import StreamTransport.Stream.Basic
import StreamTransport.Stream.Queue

/-!
# Buffered writing

A writer that never pushes back. A write is copied into the queue, and the
queue is drained as far as the inner stream takes it: the first chunk is
offered again and again until nothing is queued or the inner stream takes
nothing. A stream at its end or a failure discards what was queued. Reads go
straight to the inner stream.

The drain ends because every offer either ends it or shortens the queue.
-/

set_option autoImplicit false

namespace StreamTransport

structure Buffered (S : Type) (Q : Type := ByteQueue) where
  inner : S
  queue : Q
  writeBlocked : Bool
  readBlocked : Bool

namespace Buffered

variable {m : Type → Type} {S Q : Type} [Fifo Q]

def new (inner : S) : Buffered S Q := ⟨inner, Fifo.empty, false, false⟩

def pending (b : Buffered S Q) : Nat := Fifo.length b.queue

/-- Offers the queue to the inner stream. -/
def drain [Monad m] [Journal m] [Duplex m S] (b : Buffered S Q) :
    m (Outcome Unit × Buffered S Q) :=
  if Fifo.front b.queue = [] then pure (.ok (), b)
  else do
    let (answer, inner) ← Duplex.write b.inner (Fifo.front b.queue)
    match answer with
    | .ok (.moved (n + 1)) => drain { b with inner, queue := Fifo.drop b.queue (n + 1) }
    | .ok (.moved 0) => pure (.ok (), { b with inner, writeBlocked := true })
    | .ok .wouldBlock => pure (.ok (), { b with inner, writeBlocked := true })
    | .ok .endOfStream =>
      Journal.note (.peerClosed (Fifo.length b.queue))
      pure (.error (.stream .connectionClosed), { b with inner, queue := Fifo.clear b.queue })
    | .error cause =>
      Journal.note (.writeFailed (Fifo.length b.queue) cause)
      pure (.error cause, { b with inner, queue := Fifo.clear b.queue })
termination_by Fifo.length b.queue
decreasing_by exact Fifo.length_drop_lt (by assumption)

/-- One attempt to empty the queue. -/
def flush [Monad m] [Journal m] [Duplex m S] (b : Buffered S Q) :
    m (Outcome Unit × Buffered S Q) :=
  drain { b with writeBlocked := false }

/-- Takes all of `data`, whatever the inner stream does, unless it fails. -/
def write [Monad m] [Journal m] [Duplex m S] (b : Buffered S Q) (data : Bytes) :
    m (Outcome (Progress Nat) × Buffered S Q) := do
  let (result, b) ← flush { b with queue := Fifo.push b.queue data }
  pure (result.map fun _ => .moved data.length, b)

def read [Monad m] [Duplex m S] (b : Buffered S Q) (size : Nat) :
    m (Outcome (Progress Bytes) × Buffered S Q) := do
  let (answer, inner) ← Duplex.read b.inner size
  let blocked := match answer with
    | .ok .wouldBlock => true
    | _ => false
  pure (answer, { b with inner, readBlocked := blocked })

/-- Runs an operation of the inner stream and keeps everything else. -/
def onInner [Monad m] {α : Type} (b : Buffered S Q) (operation : S → m (α × S)) :
    m (α × Buffered S Q) := do
  let (answer, inner) ← operation b.inner
  pure (answer, { b with inner })

instance [StreamStatus S] : StreamStatus (Buffered S Q) where
  unsent b := b.pending + StreamStatus.unsent b.inner
  readBlocked b := b.readBlocked
  writeBlocked b := b.writeBlocked
  watchable b := StreamStatus.watchable b.inner

instance [Monad m] [Journal m] [Duplex m S] : Duplex m (Buffered S Q) where
  read := read
  write := write
  flush := flush
  wait b direction timeout := b.onInner fun s => Duplex.wait s direction timeout
  setNonblocking b on := b.onInner fun s => Duplex.setNonblocking s on

end Buffered

/-- Buffered writers on top of one another over a bottom stream. -/
def Stack (S : Type) : Nat → Type
  | 0 => S
  | n + 1 => Buffered (Stack S n)

namespace Stack

variable {m : Type → Type} {S : Type}

def new (bottom : S) : (n : Nat) → Stack S n
  | 0 => bottom
  | n + 1 => Buffered.new (new bottom n)

def bottom : (n : Nat) → Stack S n → S
  | 0, s => s
  | n + 1, b => bottom n b.inner

def mapBottom (f : S → S) : (n : Nat) → Stack S n → Stack S n
  | 0, s => f s
  | n + 1, b => { b with inner := mapBottom f n b.inner }

instance status [StreamStatus S] : (n : Nat) → StreamStatus (Stack S n)
  | 0 => inferInstanceAs (StreamStatus S)
  | n + 1 =>
    have := status n
    inferInstanceAs (StreamStatus (Buffered (Stack S n)))

instance duplex [Monad m] [Journal m] [Duplex m S] :
    (n : Nat) → Duplex m (Stack S n)
  | 0 => inferInstanceAs (Duplex m S)
  | n + 1 =>
    have := duplex n
    inferInstanceAs (Duplex m (Buffered (Stack S n)))

end Stack
end StreamTransport
