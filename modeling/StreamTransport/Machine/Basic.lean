import StreamTransport.Address.Numeric
import StreamTransport.Machine.Object

/-!
# A simulated machine

A machine with local sockets and no network, against which programs can be run.
It is a value: its clock stands still unless somebody waits, its descriptors
are numbered from the lowest free one, and what will happen to it from outside
is written on its agenda.

A machine resolves host names either by reading numeric addresses or from a
table. A table gives its internet addresses the port that was asked for where
they have none of their own.

An operation is a step of the machine that may be refused. What it changed
before it was refused stays changed.
-/

set_option autoImplicit false

namespace StreamTransport

inductive Resolver where
  | numeric
  | table (hosts : List (String × List Candidate))

namespace Resolver

def withPort (port : UInt16) : SocketAddress → SocketAddress
  | .inet a => .inet (if a.port = 0 then { a with port } else a)
  | .inet6 a => .inet6 (if a.port = 0 then { a with port } else a)
  | a => a

def resolve (host : String) (port : Option UInt16) (interfaces : Numeric.Interfaces) :
    Resolver → Except Failure Resolution
  | numeric => Numeric.resolve host port interfaces
  | table hosts =>
    match hosts.lookup host with
    | none => .error (.described .notFound "no such host")
    | some candidates =>
      .ok ⟨candidates.map fun c => { c with address := withPort (port.getD 0) c.address }⟩

end Resolver

namespace Machine

/-- What happens to a machine from outside. -/
inductive Event where
  | signal
  | raise (counter : Serial)

/-- A question that was put to the resolver. -/
structure Lookup where
  host : String
  port : Option UInt16

/-- What every process has open from its start. -/
def standardStreams : List (Serial × Object) :=
  [(0, { resource := .pipe }), (1, { resource := .pipe }), (2, { resource := .pipe })]

end Machine

open Machine in
/-- The machine and its one process. Besides what the table shows, the process holds `reserved`
descriptors of its own. Only the bound on the entries of a wait counts them. -/
structure Machine where
  now : Nat := 0
  agenda : List (Nat × Event) := []
  objects : List (Serial × Object) := standardStreams
  table : List (Descriptor × Serial) := [(0, 0), (1, 1), (2, 2)]
  nextSerial : Serial := 3
  nextPort : Nat := 40001
  descriptorLimit : Option Descriptor := none
  placeholders : Nat := 0
  reserved : Nat := 5
  privateName : String := "private"
  socketFiles : List (List Bytes × Serial) := []
  resolver : Resolver := .numeric
  lookups : List Lookup := []
  notices : List Notice := []

namespace Machine

abbrev Operation (α : Type) := ExceptT Errno (StateM Machine) α

def object? (m : Machine) (s : Serial) : Option Object := m.objects.lookup s

def serial? (m : Machine) (d : Descriptor) : Option Serial := m.table.lookup d

def opened? (m : Machine) (d : Descriptor) : Option Object := (m.serial? d).bind m.object?

/-- Changes an object that is there. -/
def update (m : Machine) (s : Serial) (f : Object → Object) : Machine :=
  { m with objects := m.objects.map fun o => if o.1 = s then (s, f o.2) else o }

def setResource (m : Machine) (s : Serial) (resource : Resource) : Machine :=
  m.update s fun o => { o with resource }

/-- The lowest free descriptor: every one that is taken below it pushes it up by one. -/
def freeDescriptor (m : Machine) : Descriptor :=
  (m.table.map Prod.fst).mergeSort.foldl
    (fun free taken => if taken ≤ free then free + 1 else free) 0

/-- The lowest descriptor above all that are taken. -/
def topDescriptor (m : Machine) : Descriptor :=
  m.table.foldl (fun top entry => max top (entry.1 + 1)) 0

/-- Leaves room for so many more descriptors, and lifts the limit if no number is given. What is
free below the highest descriptor is taken by placeholders. -/
def limitDescriptors (m : Machine) : Option Nat → Machine
  | none => { m with descriptorLimit := none, placeholders := 0 }
  | some more =>
    { m with
      descriptorLimit := some (m.topDescriptor + more)
      placeholders := m.topDescriptor - m.table.length }

/-- Adds an object that no descriptor stands for yet. -/
def create (object : Object) (m : Machine) : Serial × Machine :=
  (m.nextSerial,
    { m with objects := m.objects ++ [(m.nextSerial, object)], nextSerial := m.nextSerial + 1 })

/-- Whether `more` descriptors can be opened. -/
def hasRoom (m : Machine) (more : Nat) : Bool :=
  match m.descriptorLimit with
  | none => true
  | some limit => m.table.length + m.placeholders + more ≤ limit

def requireRoom (more : Nat) : Operation Unit := do
  unless (← get).hasRoom more do throw .tooManyFiles

/-- Gives an object a descriptor. -/
def assign (s : Serial) : Operation Descriptor := do
  requireRoom 1
  let m ← get
  let d := m.freeDescriptor
  set { m with table := m.table ++ [(d, s)] }
  return d

/-- Opens a new object. -/
def install (object : Object) : Operation Descriptor := do
  requireRoom 1
  assign (← modifyGet (create object))

def find (d : Descriptor) : Operation (Serial × Object) := do
  let m ← get
  match m.serial? d with
  | none => throw .badDescriptor
  | some s =>
    match m.object? s with
    | none => throw .badDescriptor
    | some object => return (s, object)

/-- The socket behind a descriptor. -/
def findSocket (d : Descriptor) : Operation (Serial × Nature) := do
  let (s, object) ← find d
  match object.resource with
  | .socket _ _ nature => return (s, nature)
  | _ => throw .notSocket

def localSocket? (m : Machine) (s : Serial) : Option LocalSocket :=
  match m.object? s with
  | some { resource := .socket _ _ (.unix socket), .. } => some socket
  | _ => none

/-- Changes a local socket that is there. -/
def updateLocal (m : Machine) (s : Serial) (f : LocalSocket → LocalSocket) : Machine :=
  m.update s fun o =>
    match o.resource with
    | .socket keepAlive buffer (.unix socket) =>
      { o with resource := .socket keepAlive buffer (.unix (f socket)) }
    | _ => o

def updateNet (m : Machine) (s : Serial) (f : NetSocket → NetSocket) : Machine :=
  m.update s fun o =>
    match o.resource with
    | .socket keepAlive buffer (.net socket) =>
      { o with resource := .socket keepAlive buffer (.net (f socket)) }
    | _ => o

/-- Removes an object, and every registration that watches it. -/
def discard (m : Machine) (s : Serial) : Machine :=
  let forget (o : Object) : Object :=
    match o.resource with
    | .watch registrations =>
      { o with resource := .watch (registrations.filter fun r => r.target ≠ s) }
    | _ => o
  { m with objects := (m.objects.filter fun o => o.1 ≠ s).map fun o => (o.1, forget o.2) }

/-- Adds to a counter. -/
def raise (m : Machine) (s : Serial) : Machine :=
  m.update s fun o =>
    match o.resource with
    | .counter value => { o with resource := .counter (value + 1) }
    | _ => o

end Machine
end StreamTransport
