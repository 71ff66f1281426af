import StreamTransport.Notice
import StreamTransport.Octets

/-!
# Byte streams

One attempt to move bytes either moves some, finds that it would have to wait,
finds the stream at its end, or fails. A byte stream offers reads, writes,
flushes and bounded waits in some setting `m`; layers are streams over streams.
-/

set_option autoImplicit false

namespace StreamTransport

inductive Direction where
  | read
  | write
  deriving DecidableEq, Repr

/-- How a bounded wait ended. -/
inductive Readiness where
  | ready
  | timedOut
  deriving DecidableEq, Repr

/-- How an attempt ended that did not fail. -/
inductive Progress (α : Type) where
  | moved (what : α)
  | wouldBlock
  | endOfStream
  deriving DecidableEq, Repr

namespace Progress

def map {α β : Type} (f : α → β) : Progress α → Progress β
  | moved a => moved (f a)
  | wouldBlock => wouldBlock
  | endOfStream => endOfStream

/-- The number of bytes that moved, none for anything else. -/
def count : Progress Nat → Nat
  | moved n => n
  | wouldBlock => 0
  | endOfStream => 0

end Progress

/-- What an operation returns, beside the stream after it. -/
abbrev Outcome (α : Type) := Except Failure α

/-- What a stream tells about itself without being driven. -/
class StreamStatus (S : Type) where
  unsent : S → Nat
  readBlocked : S → Bool
  writeBlocked : S → Bool
  watchable : S → Bool

/-- What a stream can be asked to do. -/
class Duplex (m : Type → Type) (S : Type) where
  read : S → Nat → m (Outcome (Progress Bytes) × S)
  write : S → Bytes → m (Outcome (Progress Nat) × S)
  flush : S → m (Outcome Unit × S)
  wait : S → Direction → Duration → m (Outcome Readiness × S)
  setNonblocking : S → Bool → m (Outcome Unit × S)

end StreamTransport
