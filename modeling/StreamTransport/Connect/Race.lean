import StreamTransport.Error.Connect
import StreamTransport.Settings.Basic
import StreamTransport.Socket.Basic
import StreamTransport.Wait

/-!
# Racing alternate targets

Every target is resolved and given a socket before the first connect. A target
that does not resolve, resolves to nothing, or gets no socket takes no part.
The participants are then connected one after the other, blocking, in the order
of the list, and the first that connects wins. The sockets of all others are
closed when the race is over.
-/

set_option autoImplicit false

namespace StreamTransport

open Program

/-- A target that takes part, with its socket. -/
structure Participant where
  host : String
  socket : Socket
  candidate : Candidate

namespace Race

/-- The participant a target becomes, if it becomes one. -/
def enter (target : Alternate) (fallbackPort : UInt16) : Program (Option Participant) := do
  let port := target.port.getD fallbackPort
  match ← perform (.resolve target.host (some port)) with
  | .error cause =>
    Journal.note (.alternateSkipped target.host cause)
    return none
  | .ok resolution =>
    match resolution.raceIndex.bind fun i => resolution.candidates[i]? with
    | none => return none
    | some candidate =>
      match ← (Socket.ofCandidate candidate).run with
      | .error cause =>
        Journal.note (.alternateSkipped target.host cause)
        return none
      | .ok socket => return some ⟨target.host, socket, candidate⟩

/-- The participants, in the order of their targets. -/
def line (fallbackPort : UInt16) : List Alternate → Program (List Participant)
  | [] => return []
  | target :: rest => do
    let first ← enter target fallbackPort
    let others ← line fallbackPort rest
    return first.toList ++ others

def closeAll (participants : List Participant) : Program Unit :=
  participants.forM fun p => p.socket.descriptor.close

def cancelRequested : Option Cancellation → Program Bool
  | none => return false
  | some token => token.isRequested

/-- Connects the participants in turn until one succeeds. -/
def connectInTurn (cancel : Option Cancellation) :
    List Participant → Attempt ConnectError Connection
  | [] => throw .noCandidate
  | p :: rest => do
    if ← Attempt.always (cancelRequested cancel) then
      Attempt.always (closeAll (p :: rest))
      throw .cancelled
    let address := p.candidate.address
    match ← Attempt.always (p.socket.connect address (.ofFamily address.family)).run with
    | .ok socket =>
      Attempt.always (Journal.note (.alternateWon p.host address))
      Attempt.always (closeAll rest)
      return socket
    | .error cause =>
      Attempt.always (Journal.note (.alternateFailed p.host cause))
      connectInTurn cancel rest

def run (targets : List Alternate) (fallbackPort : UInt16)
    (cancel : Option Cancellation) : Attempt ConnectError Connection := do
  let participants ← Attempt.always (line fallbackPort targets)
  Attempt.always (Journal.note (.racing participants.length targets.length))
  connectInTurn cancel participants

end Race

end StreamTransport
