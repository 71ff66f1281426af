import StreamTransport.Machine.Conditions
import StreamTransport.Machine.Options
import StreamTransport.Machine.Sockets

/-!
# A machine answers requests

Every request has its answer on a simulated machine, so every program can be
run there. Names are resolved by the machine's resolver, which remembers what
it was asked, and notices are kept in order.
-/

set_option autoImplicit false

namespace StreamTransport.Machine

def readMode (d : Descriptor) : Operation Bool := do return (← find d).2.nonblocking

def writeMode (d : Descriptor) (nonblocking : Bool) : Operation Unit := do
  let (s, _) ← find d
  modify fun m => m.update s fun o => { o with nonblocking }

/-- The interfaces that can be looked up by name, which takes a free descriptor. -/
def interfaces (m : Machine) : Numeric.Interfaces :=
  if m.hasRoom 1 then Numeric.loopbackOnly else []

def handle : (request : Call) → Machine → request.Answer × Machine
  | .clock, m => (m.now, m)
  | .resolve host port, m =>
    (m.resolver.resolve host port m.interfaces, { m with lookups := m.lookups ++ [⟨host, port⟩] })
  | .socket family sockType protocol, m => (socket family sockType protocol).run m
  | .connect d address, m => (connect d address).run m
  | .readMode d, m => (readMode d).run m
  | .writeMode d nonblocking, m => (writeMode d nonblocking).run m
  | .localName d, m => (localName d).run m
  | .peerName d, m => (peerName d).run m
  | .getOption d option, m => (getOption d option).run m
  | .setOption d option value, m => (setOption d option value).run m
  | .watchCreate, m => (install { resource := .watch [] }).run m
  | .watchAdd watch target interest, m => (watchAdd watch target interest).run m
  | .watchModify watch target interest, m => (watchModify watch target interest).run m
  | .watchRemove watch target, m => (watchRemove watch target).run m
  | .signalCount, m => (m.signalCount, m)
  | .poll signals entries millis, m => pollAnswer signals entries millis m
  | .receive d size, m => (receive d size false).run m
  | .peek d, m => (do let _ ← receive d 1 true : Operation Unit).run m
  | .send d data, m => (send d data).run m
  | .shutdown d, m => (shutdown d true true).run m
  | .close d, m => ((), m.close d)
  | .eventCreate, m => (install { resource := .counter 0 }).run m
  | .eventSignal d, m => (eventSignal d).run m
  | .note notice, m => ((), { m with notices := m.notices ++ [notice] })

end StreamTransport.Machine
