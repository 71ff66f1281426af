import StreamTransport.Scenario.Basic

/-!
# Waiting in a scenario

Watches, and waits for one or several values. A wait may be struck by
signals at fixed intervals; those that come too late are forgotten.
-/

set_option autoImplicit false

namespace StreamTransport.Scenario

def startWatch (on name : Name) (interest : Interest) : Play Report := do
  match ← attempt (Watch.create (← descriptor on) interest) with
  | .error cause => return .failed cause
  | .ok w =>
    store name (.watch w)
    return .done

def changeWatch (on : Name) (interest : Interest) : Play Report := do
  return doneOr (← attempt ((← look on watch?).change interest))

def stopWatch (on : Name) : Play Report := do
  return doneOr (← attempt (← look on watch?).stop)

def isRaised (on : Name) : Play Report := do
  return orFailed (← attempt (← look on watch?).isRaised) .flag

def waitSignal (on : Name) (ms : Nat) : Play Report := do
  return orFailed (← attempt ((← look on watch?).wait (.ofMillis ms))) .flag

/-- The time between two signals. -/
def signalSpacing : Duration := .ofMillis 3

def scheduleSignals (count : Nat) : Play Unit :=
  modify fun s =>
    let moments := (List.range count).map fun i =>
      s.machine.now + (i + 1) * signalSpacing.nanos
    { s with machine := moments.foldl (fun m moment => m.schedule moment .signal) s.machine }

def forgetSignals : Play Unit :=
  modify fun s =>
    let kept := s.machine.agenda.filter fun entry => match entry.2 with
      | .signal => false
      | .raise _ => true
    { s with machine := { s.machine with agenda := kept } }

/-- A wait, and whether it took all of its time where signals strike it. -/
def timed (timeout : Option Duration) (signals : Option Nat) (wait : Play Report) :
    Play (Report × List Fact) := do
  match signals with
  | none => return (← wait, [])
  | some count =>
    let start ← now
    scheduleSignals count
    let report ← wait
    forgetSignals
    let full := (timeout.getD .zero).nanos ≤ (← now) - start
    return (report, [.fullTime full])

def waitMany (on : List Name) (timeout : Option Duration) (signals : Option Nat) :
    Play (Report × List Fact) := do
  let descriptors ← on.mapM descriptor
  timed timeout signals do
    return orFailed (← attempt (Wait.any descriptors timeout)) .index

def waitOne (on : Name) (direction : Direction) (timeout : Duration) (signals : Option Nat) :
    Play (Report × List Fact) := do
  let d ← descriptor on
  timed (some timeout) signals do
    return orFailed (← attempt (Wait.one d direction timeout)) fun r => .ready (r = .ready)

end StreamTransport.Scenario
