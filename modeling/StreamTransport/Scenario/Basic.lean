import StreamTransport.Connect.Connector
import StreamTransport.Machine.Handler
import StreamTransport.Scenario.Fresh
import StreamTransport.Scenario.Report
import StreamTransport.Stream.Buffered

/-!
# The state of a scenario

A machine, the values that steps have made under their names, and the endpoints
in the order of their names with their addresses. A value owns its descriptors;
copies of a cancel token own theirs together. A new value is stored before an
older one of the same name is dropped.
-/

set_option autoImplicit false

namespace StreamTransport

namespace Scenario

inductive Value where
  | plain (descriptor : Descriptor)
  | socket (socket : Socket)
  | pending (pending : StartedConnect)
  | connected (socket : Connection)
  | raw (stream : RawStream)
  | layer (layer : Layer)
  | buffered (stream : Buffered RawStream)
  | token (token : Cancellation)
  | connector (connector : Connector) (resolver : Resolver)
  | watch (watch : Watch)

namespace Value

def watching? (s : RawStream) : Option Descriptor := s.watch.map Watch.descriptor

/-- The descriptor that a value is waited for by. A layer and a buffered stream stand for their
watch, a raw stream for nothing. -/
def descriptor? : Value → Option Descriptor
  | plain d => some d
  | socket s => some s.descriptor
  | pending p => some p.descriptor
  | connected s => some s.descriptor
  | raw _ => none
  | layer l => watching? l.stream
  | buffered b => watching? b.inner
  | token t => some t.descriptor
  | connector _ _ => none
  | watch w => some w.descriptor

def token? : Value → Option Cancellation
  | token t => some t
  | connector c _ => some c.cancel
  | _ => none

end Value
end Scenario

open Scenario in
structure Scenario where
  machine : Machine := {}
  values : List (Name × Value) := []
  endpoints : List (Name × SocketAddress) := []

namespace Scenario

/-- A step under way: it changes the scenario, and is refused if it cannot go on. -/
abbrev Play (α : Type) := ExceptT Refusal (StateM Scenario) α

/-- A scenario before its first step. -/
def start (steps : List Step) : Scenario :=
  { machine := { privateName := freshName steps, nextPort := freshPort steps } }

/-- Runs a program on the machine. -/
def run {α : Type} (p : Program α) : Play α :=
  modifyGet fun s =>
    let (a, machine) := p.run Machine.handle s.machine
    (a, { s with machine })

def attempt {α ε : Type} (p : Attempt ε α) : Play (Except ε α) := run (ExceptT.run p)

/-- Does something to the machine directly. -/
def operate {α : Type} (op : Machine.Operation α) : Play (Reply α) :=
  modifyGet fun s =>
    let (a, machine) := (ExceptT.run op).run s.machine
    (a, { s with machine })

/-- Sets the stage; what the machine refuses refuses the step. -/
def arrange {α : Type} (op : Machine.Operation α) : Play α := do
  match ← operate op with
  | .ok a => return a
  | .error errno => throw (.failed (.system errno))

def now : Play Nat := return (← get).machine.now

def value? (name : Name) : Play (Option Value) := return (← get).values.lookup name

def value (name : Name) : Play Value := do
  match ← value? name with
  | some v => return v
  | none => throw (.noHandle name)

/-- Removes a value from the scenario, which keeps its descriptors open. -/
def forget (name : Name) : Play Unit :=
  modify fun s => { s with values := s.values.filter fun entry => entry.1 ≠ name }

def replace (name : Name) (v : Value) : Play Unit :=
  modify fun s =>
    { s with values := s.values.map fun entry => if entry.1 = name then (name, v) else entry }

def closeStream (s : RawStream) : Program Unit := do let _ ← s.close

/-- Closes a token's descriptor unless some value still holds it. -/
def releaseToken (t : Cancellation) : Play Unit := do
  let held := (← get).values.any fun entry => entry.2.token? = some t
  unless held do run (Descriptor.close t.descriptor)

/-- Closes what a value owns. The value is in the scenario no more. -/
def release : Value → Play Unit
  | .plain d => run d.close
  | .socket s => run s.descriptor.close
  | .pending p => run p.descriptor.close
  | .connected s => run s.descriptor.close
  | .raw s => run (closeStream s)
  | .layer l => run (closeStream l.stream)
  | .buffered b => run (closeStream b.inner)
  | .token t => releaseToken t
  | .connector c _ => releaseToken c.cancel
  | .watch w => run w.close

/-- Stores a value, and then drops the one that had the name. -/
def store (name : Name) (v : Value) : Play Unit := do
  let older ← value? name
  forget name
  modify fun s => { s with values := s.values ++ [(name, v)] }
  if let some older := older then release older

/-- Takes a value out of the scenario. One of another kind than asked for is dropped. -/
def take {α : Type} (name : Name) (kind : Value → Option α) : Play α := do
  let v ← value name
  forget name
  match kind v with
  | some a => return a
  | none =>
    release v
    throw (.noHandle name)

/-- Goes on with a value that was taken, which is dropped if the step is refused. -/
def orRelease {α : Type} (v : Value) (p : Play α) : Play α :=
  tryCatch p fun why => do
    release v
    throw why

/-- Looks at a value of one kind. -/
def look {α : Type} (name : Name) (kind : Value → Option α) : Play α := do
  match kind (← value name) with
  | none => throw (.noHandle name)
  | some a => return a

def socket? : Value → Option Socket
  | .socket s => some s
  | _ => none

def pending? : Value → Option StartedConnect
  | .pending p => some p
  | _ => none

def connected? : Value → Option Connection
  | .connected s => some s
  | _ => none

/-- The descriptor of a value that is a descriptor and little more. -/
def held? : Value → Option Descriptor
  | .plain d => some d
  | .connected s => some s.descriptor
  | _ => none

def raw? : Value → Option RawStream
  | .raw s => some s
  | _ => none

def buffered? : Value → Option (Buffered RawStream)
  | .buffered b => some b
  | _ => none

def watch? : Value → Option Watch
  | .watch w => some w
  | _ => none

def connector? : Value → Option (Connector × Resolver)
  | .connector c resolver => some (c, resolver)
  | _ => none

/-- The descriptor of a value that has one. -/
def descriptor (name : Name) : Play Descriptor := do
  match (← value? name).bind Value.descriptor? with
  | some d => return d
  | none => throw (.noDescriptor name)

def endpoint (name : Name) : Play SocketAddress := do
  match (← get).endpoints.lookup name with
  | some address => return address
  | none => throw (.noEndpoint name)

def addEndpoint (name : Name) (address : SocketAddress) : Play Unit :=
  modify fun s => { s with
    endpoints := s.endpoints.filter (fun entry => entry.1 < name) ++
      (name, address) :: s.endpoints.filter fun entry => name < entry.1 }

def destination : Destination → Play SocketAddress
  | .endpoint name => endpoint name
  | .fixed address => return address

def candidate (spec : CandidateSpec) : Play Candidate := do
  return spec.candidate (← destination spec.destination)

/-- A table resolver over the candidates that are specified. -/
def hostTable (hosts : HostTable) : Play Resolver := do
  return .table (← hosts.mapM fun host => do return (host.1, ← host.2.mapM candidate))

def named (address : SocketAddress) : Play NamedAddress := do
  let found := (← get).endpoints.find? fun entry => entry.2 = address
  return ⟨address, found.map Prod.fst⟩

def namedOutcome : Outcome SocketAddress → Play (Outcome NamedAddress)
  | .ok address => return .ok (← named address)
  | .error cause => return .error cause

def orFailed {α : Type} (outcome : Outcome α) (report : α → Report) : Report :=
  match outcome with
  | .ok a => report a
  | .error cause => .failed cause

def doneOr (outcome : Outcome Unit) : Report := orFailed outcome fun _ => .done

end Scenario
end StreamTransport
