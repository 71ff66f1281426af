import StreamTransport.Scenario.Basic

/-!
# Setting the stage

Listeners, peers and plain descriptors: what surrounds the library in a
scenario. These steps act on the machine directly.
-/

set_option autoImplicit false

namespace StreamTransport.Scenario

open Machine in
/-- A port nobody has had. -/
def newPort : Operation UInt16 :=
  modifyGet fun m => (UInt16.ofNat m.nextPort, { m with nextPort := m.nextPort + 1 })

open Machine in
def installNet (form : Form) (listening : Bool) : Operation (Descriptor × SocketAddress) := do
  requireRoom 1
  let name : SocketAddress := .inet ⟨.loopback, ← newPort⟩
  let d ← install (.ofSocket (.net { form, name, listening }))
  return (d, name)

open Machine in
def storePlain (name : Name) (d : Descriptor) : Play Report := do
  store name (.plain d)
  return .done

/-- Stores a descriptor whose address is an endpoint from now on. -/
def storeEndpoint (name : Name) (made : Descriptor × SocketAddress) : Play Report := do
  addEndpoint name made.2
  storePlain name made.1

open Machine in
/-- The machine has no address of version 6 to bind a socket to. -/
def bind6 {α : Type} : Operation α := do
  requireRoom 1
  throw .addressNotAvailable

/-- Why a path cannot be the name of a socket. -/
def pathFault? (path : Bytes) : Option String :=
  if path.contains 0 then some "paths must not contain interior null bytes"
  else if SocketAddress.pathRoom ≤ path.length then some "path must be shorter than SUN_LEN"
  else none

/-- A listener at a file of the private directory. -/
def listenLocal (name : Name) : Play Report := do
  let path := Text.utf8 ((← get).machine.privatePath name)
  arrange (Machine.requireRoom 1)
  if let some fault := pathFault? path then throw (.failed (.described .invalidInput fault))
  storeEndpoint name (← arrange (Machine.listen path), .unix ⟨path⟩)

def listen (name : Name) (site : Site) : Play Report := do
  match site with
  | .loopback => storeEndpoint name (← arrange (installNet .stream true))
  | .loopback6 => arrange bind6
  | .unix => listenLocal name

/-- A socket that could not be bound to a version 6 address keeps the name it has. -/
def bound (name : Name) (site : Site) : Play Report := do
  match site with
  | .loopback => storeEndpoint name (← arrange (installNet .stream false))
  | .loopback6 =>
    let d ← arrange (Machine.socket .inet6 streamType 0)
    storeEndpoint name (d, Machine.unnamed6)
  | .unix => throw (.failed (.system .invalidArgument))

/-- Waits until a descriptor can be read from, or the time is over. -/
def awaitInput (d : Descriptor) (ms : Nat) : Play Bool :=
  modifyGet fun s =>
    let readable (m : Machine) := m.isReady ⟨d, .read⟩
    let deadline := s.machine.now + (Duration.ofMillis ms).nanos
    let (_, machine) := Machine.await readable (some deadline) s.machine.agenda s.machine
    (readable machine, { s with machine })

def accept (on name : Name) (ms : Nat) : Play Report := do
  let d ← descriptor on
  unless ← awaitInput d ms do return .accepted false
  let accepted ← arrange (Machine.accept d)
  store name (.plain accepted)
  return .accepted true

/-- A plain connection to an endpoint. -/
def hold (name target : Name) : Play Report := do
  let address ← endpoint target
  let d ← arrange (Machine.socket address.family streamType 0)
  match ← operate (Machine.connect d (address.encode?.getD [])) with
  | .ok () => storePlain name d
  | .error errno =>
    run d.close
    throw (.failed (.system errno))

/-- There is no connection between two sockets of the internet. -/
def tcpPair : Play Report := do
  arrange (Machine.requireRoom 2)
  throw (.failed (.system .networkUnreachable))

open Machine in
def installPair : Operation (Descriptor × Descriptor) := do
  requireRoom 2
  let (a, b, m) := Machine.pair (← get)
  set m
  return (← assign a, ← assign b)

def pair (name peer : Name) : Play Report := do
  let (a, b) ← arrange installPair
  store name (.plain a)
  storePlain peer b

open Machine in
def installOddity : Oddity → Operation Descriptor
  | .device => install { resource := .device }
  | .pipe => do
    requireRoom 2
    install { resource := .pipe }
  | .datagrams => do return (← installNet .datagrams false).1
  | .datagrams6 => bind6
  | .routing => install (.ofSocket .routing)
  | .tcp => Machine.socket .inet streamType 0
  | .unix => Machine.socket .unix streamType 0
  | .unixDatagrams => Machine.socket .unix 2 0

/-- Writes all of `data`. -/
def writeAll (d : Descriptor) (data : Bytes) : Play (Outcome Unit) := do
  if data.isEmpty then return .ok ()
  match ← operate (Machine.write d data) with
  | .ok sent => return if sent < data.length then .error (.system .tryAgain) else .ok ()
  | .error errno => return .error (.system errno)

def peerWrite (on : Name) (data : Bytes) : Play Report := do
  return doneOr (← writeAll (← look on held?) data)

/-- Reads until there are `left` bytes, the stream ends, or nothing comes for a while. -/
def collect (d : Descriptor) (ms : Nat) : (left : Nat) → Play (Outcome (Bytes × Ending))
  | 0 => return .ok ([], .full)
  | left + 1 => do
    unless ← awaitInput d ms do return .ok ([], .quiet)
    match ← operate (Machine.read d (left + 1)) with
    | .ok [] => return .ok ([], .endOfStream)
    | .ok (first :: others) =>
      match ← collect d ms (left - others.length) with
      | .ok (more, ending) => return .ok (first :: others ++ more, ending)
      | .error cause => return .error cause
    | .error errno => return .error (.system errno)

def peerRead (on : Name) (size ms : Nat) (discard : Bool) : Play Report := do
  let outcome ← collect (← look on held?) ms size
  return orFailed outcome fun (data, ending) =>
    .received (if discard then none else some data) ending

/-- Shuts a descriptor down, whether or not that is refused. -/
def peerShutdown (on : Name) (writeOnly : Bool) : Play Report := do
  let _ ← operate (Machine.shutdown (← look on held?) (!writeOnly) true)
  return .done

def drop (on : Name) : Play Report := do
  let v ← value on
  forget on
  release v
  return .done

def peerReset (on : Name) : Play Report := do
  let d ← take on held?
  run d.close
  return .done

/-- Limits how many more descriptors can be open, or lifts the limit. -/
def room (more : Option Nat) : Play Report := do
  modify fun s =>
    { s with machine := s.machine.limitDescriptors more }
  return .done

end StreamTransport.Scenario
