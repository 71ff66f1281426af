import StreamTransport.Error.Failure
import StreamTransport.Time

/-!
# Failures of a connect sequence

A sequence fails for one of nine causes. Each has a message and one of three
codes, which is what a connector records for its caller.
-/

set_option autoImplicit false

namespace StreamTransport

inductive ErrorCode where
  | dnsNameNotFound
  | connectFailed
  | connectCancelled
  deriving DecidableEq, Repr

inductive ConnectError where
  | resolve (host : String)
  | noMatchingFamily (host family : String)
  | invalidTarget (reason : String)
  | connect (address : String) (cause : Failure)
  | timedOut (address : String) (timeout : Duration)
  | cancelled
  | noCandidate
  | configure (cause : Failure)
  | socket (cause : Failure)
  deriving DecidableEq, Repr

namespace ConnectError

def message : ConnectError → String
  | resolve host => "could not resolve " ++ host
  | noMatchingFamily host family => host ++ " has no " ++ family ++ " address"
  | invalidTarget reason => "invalid target: " ++ reason
  | connect address cause => "connect to " ++ address ++ " failed: " ++ cause.message
  | timedOut address timeout => "connect to " ++ address ++ " timed out after " ++ timeout.text
  | cancelled => "connect cancelled"
  | noCandidate => "no alternate target could be reached"
  | configure cause => "configuring connected socket failed: " ++ cause.message
  | socket cause => cause.message

def code : ConnectError → ErrorCode
  | resolve _ => .dnsNameNotFound
  | noMatchingFamily _ _ => .dnsNameNotFound
  | invalidTarget _ => .connectFailed
  | connect _ _ => .connectFailed
  | timedOut _ _ => .connectFailed
  | cancelled => .connectCancelled
  | noCandidate => .connectCancelled
  | configure _ => .connectFailed
  | socket _ => .connectFailed

/-- The failure of a single operation behind the error, where there is one. -/
def cause? : ConnectError → Option Failure
  | connect _ cause => some cause
  | configure cause => some cause
  | socket cause => some cause
  | _ => none

end ConnectError
end StreamTransport
