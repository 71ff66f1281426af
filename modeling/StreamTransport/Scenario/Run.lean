import StreamTransport.Scenario.Connecting
import StreamTransport.Scenario.Streams
import StreamTransport.Scenario.Waiting

/-!
# Running a scenario

Every step has one entry: its report, the facts beside it, and the notices left
during it. A step that is refused reports why and stores nothing.
-/

set_option autoImplicit false

namespace StreamTransport.Scenario

def alone (p : Play Report) : Play (Report × List Fact) := do return (← p, [])

def play : Step → Play (Report × List Fact)
  | .listen name site => alone (listen name site)
  | .bound name site => alone (bound name site)
  | .accept on name ms => alone (accept on name ms)
  | .hold name endpoint => alone (hold name endpoint)
  | .pair name peer => alone (pair name peer)
  | .tcpPair _ _ => alone tcpPair
  | .oddity name kind => alone do storePlain name (← arrange (installOddity kind))
  | .peerWrite on data => alone (peerWrite on data)
  | .peerRead on size ms discard => alone (peerRead on size ms discard)
  | .peerShutdown on writeOnly => alone (peerShutdown on writeOnly)
  | .peerReset on => alone (peerReset on)
  | .drop on => alone (drop on)
  | .room more => alone (room more)
  | .token name copyOf => alone (token name copyOf)
  | .cancel on => alone (cancel on)
  | .isCancelled on => alone (isCancelled on)
  | .connector name settings hosts cancel => alone (connector name settings hosts cancel)
  | .systemConnector name settings => alone (systemConnector name settings)
  | .openSocket on name q => openSocket on name q
  | .openLayer on name q => openLayer on name q
  | .resolvable on host => resolvable on host
  | .race name hosts targets fallbackPort cancel =>
    race name hosts targets fallbackPort cancel
  | .connectWithin on name target timeout cancel cancelAfter =>
    alone (connectWithin on name target timeout cancel cancelAfter)
  | .socket name family sockType protocol => alone (createSocket name family sockType protocol)
  | .connect on name target kind => alone (connect on name target kind)
  | .startConnect on name target => alone (startConnect on name target)
  | .pendingError on => alone (pendingError on)
  | .checkReset on => alone (checkReset on)
  | .finish on name kind => alone (finish on name kind)
  | .adoptOrClose on name => alone (adoptOrClose on name)
  | .adopt on name => adopt on name
  | .adoptNumber number name => adoptNumber number name
  | .release on name => alone (releaseSocket on name)
  | .info on => alone (info on)
  | .set on setting => alone (changeOption on setting)
  | .get on reading => alone (readOption on reading)
  | .startWatch on name interest => alone (startWatch on name interest)
  | .changeWatch on interest => alone (changeWatch on interest)
  | .stopWatch on => alone (stopWatch on)
  | .isRaised on => alone (isRaised on)
  | .waitSignal on ms => alone (waitSignal on ms)
  | .waitMany on timeout signals => waitMany on timeout signals
  | .waitOne on direction timeout signals => waitOne on direction timeout signals
  | .raw on name => alone (makeRaw on name)
  | .layer on name => alone (makeLayer on name)
  | .buffer on name => alone (buffer on name)
  | .unbuffer on name => alone (unbuffer on name)
  | .read on size => alone (read on size)
  | .write on data => write on data
  | .fill on => alone (fillOn on fillLimit)
  | .flush on => flush on
  | .pump on peer size => pump on peer size
  | .close on => alone (close on)
  | .wait on direction timeout => alone (wait on direction timeout)
  | .nonblocking on mode => alone (changeMode on mode)
  | .state on => alone (state on)
  | .pending on => pending on

/-- What is left on the machine by earlier steps is of no concern to the next. -/
def clear (s : Scenario) : Scenario :=
  { s with machine := { s.machine with lookups := [], notices := [] } }

def step (s : Scenario) (next : Step) : Entry × Scenario :=
  let (result, after) := (play next).run.run s.clear
  let notices := after.machine.notices
  match result with
  | .ok (report, facts) => ({ report, facts, notices }, after)
  | .error why => ({ report := .refused why, notices }, after)

/-- Plays the steps in order; each entry comes with the scenario as it was left. -/
def playAll : Scenario → List Step → List (Entry × Scenario)
  | _, [] => []
  | s, next :: rest =>
    let (entry, after) := s.step next
    (entry, after) :: playAll after rest

/-- Writes endpoints by their names, and the private directory as such. -/
def mask (s : Scenario) (text : String) : String :=
  let shown := s.endpoints.foldl (fun text endpoint =>
    match endpoint.2 with
    | .inet a => text.replace a.text ("\x7b" ++ endpoint.1 ++ "\x7d")
    | .inet6 a => text.replace a.text ("\x7b" ++ endpoint.1 ++ "\x7d")
    | _ => text) text
  shown.replace s.machine.privateDirectory "\x7bdir\x7d"

end StreamTransport.Scenario
