import StreamTransport.System.Program

/-!
# Waiting for descriptors

A wait ends when a descriptor is ready or its time is over. The time is fixed
once, as a moment of the clock, and every attempt that a signal interrupts is
followed by one that asks for what is left of it, in whole milliseconds, a part
of one counted as a whole. A time so long that the clock cannot tell its end is
no limit.

A token for cancelling is a counter of the kernel that can be waited for. Once
it is signaled it stays so, and every copy of a token names the same counter.

A watch looks at one descriptor and is itself ready to be read while that
descriptor is in one of the conditions asked for. Closing the watch leaves the
watched descriptor alone.
-/

set_option autoImplicit false

namespace StreamTransport

namespace Wait

open Program

/-- The clock tells moments before this many nanoseconds. -/
def clockLimit : Nat := 0x8000000000000000 * 1000000000

/-- The longest time one attempt can ask for. -/
def longestMillis : Nat := 0x7FFFFFFF

/-- The moment at which a wait is over. -/
def deadlineAt (now : Nat) (timeout : Duration) : Option Nat :=
  if now + timeout.nanos < clockLimit then some (now + timeout.nanos) else none

/-- What an attempt asks for at the moment `now`. -/
def millisLeft (deadline now : Nat) : Nat :=
  min (Duration.millisUp ⟨deadline - now⟩) longestMillis

def deadline : Option Duration → Program (Option Nat)
  | none => pure none
  | some timeout => do
    let now ← perform .clock
    return deadlineAt now timeout

def attemptMillis : Option Nat → Program (Option Nat)
  | none => pure none
  | some deadline => do
    let now ← perform .clock
    return some (millisLeft deadline now)

/-- Attempts until one is not interrupted. -/
def attempts (entries : List PollEntry) (deadline : Option Nat) (signals : Nat) :
    Program (Reply (Fin entries.length → Bool)) := do
  let millis ← attemptMillis deadline
  match ← perform (.poll signals entries millis) with
  | .returned flagged => pure (.ok flagged)
  | .failed errno => pure (.error errno)
  | .interrupted left => attempts entries deadline left
termination_by signals

/-- Which descriptors are ready when the wait is over. -/
def poll (entries : List PollEntry) (timeout : Option Duration) :
    Attempt Failure (Fin entries.length → Bool) :=
  Attempt.ofReply (fun errno => .socket (.readiness errno "poll")) do
    let deadline ← deadline timeout
    let signals ← perform .signalCount
    attempts entries deadline signals

/-- Waits until a descriptor is ready in one direction. -/
def one (descriptor : Descriptor) (direction : Direction) (timeout : Duration) :
    Attempt Failure Readiness := do
  let flagged ← poll [⟨descriptor, direction⟩] (some timeout)
  return if flagged ⟨0, Nat.zero_lt_one⟩ then .ready else .timedOut

/-- Waits until any descriptor is readable: the least index of one that is, none when the time is
over. -/
def any (descriptors : List Descriptor) (timeout : Option Duration) :
    Attempt Failure (Option Nat) := do
  let flagged ← poll (descriptors.map (⟨·, .read⟩)) timeout
  return ((List.finRange _).find? flagged).map Fin.val

end Wait

/-- A token for cancelling what is under way. -/
structure Cancellation where
  descriptor : Descriptor
  deriving DecidableEq, Repr

namespace Cancellation

open Program

def create : Attempt Failure Cancellation := do
  let descriptor ← Attempt.ofReply (fun errno => Failure.socket (.readiness errno "eventfd"))
    (perform .eventCreate)
  return ⟨descriptor⟩

/-- Signals the token. A counter that is full is signaled already. -/
def request (token : Cancellation) : Attempt Failure Unit := ExceptT.mk do
  match ← perform (.eventSignal token.descriptor) with
  | .ok () => pure (.ok ())
  | .error errno =>
    if errno = .tryAgain then pure (.ok ())
    else pure (.error (.socket (.readiness errno "eventfd write")))

/-- Looks without waiting. A token that cannot be looked at counts as not cancelled. -/
def isRequested (token : Cancellation) : Program Bool := do
  match ← (Wait.any [token.descriptor] (some .zero)).run with
  | .ok found => pure found.isSome
  | .error cause =>
    Journal.note (.cancelPollFailed cause)
    pure false

end Cancellation

structure Watch where
  descriptor : Descriptor
  target : Descriptor
  deriving DecidableEq, Repr

namespace Watch

open Program

def controlFailure (errno : Errno) : Failure := .socket (.readiness errno "epoll_ctl")

def create (target : Descriptor) (interest : Interest) : Attempt Failure Watch := do
  let d ← Attempt.ofReply (fun errno => Failure.socket (.readiness errno "epoll_create1"))
    (perform .watchCreate)
  Attempt.orElseClean (Attempt.ofReply controlFailure (perform (.watchAdd d target interest)))
    (Descriptor.close d)
  return ⟨d, target⟩

def change (watch : Watch) (interest : Interest) : Attempt Failure Unit :=
  Attempt.ofReply controlFailure (perform (.watchModify watch.descriptor watch.target interest))

/-- Stops watching; the watch is never ready again. -/
def stop (watch : Watch) : Attempt Failure Unit :=
  Attempt.ofReply controlFailure (perform (.watchRemove watch.descriptor watch.target))

def wait (watch : Watch) (timeout : Duration) : Attempt Failure Bool := do
  return (← Wait.any [watch.descriptor] (some timeout)).isSome

def isRaised (watch : Watch) : Attempt Failure Bool := watch.wait .zero

def close (watch : Watch) : Program Unit := watch.descriptor.close

end Watch
end StreamTransport
