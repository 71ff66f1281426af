import StreamTransport.Machine.Local

/-!
# Conditions and waiting

What a descriptor can be waited for, what a watch reports, and how a wait ends:
a condition holds, a signal strikes, or the time is over. Hang-up and error are
reported whether asked for or not. Waiting is what makes the clock go on.
-/

set_option autoImplicit false

namespace StreamTransport.Machine

structure Conditions where
  input : Bool := false
  output : Bool := false
  hangUp : Bool := false
  fault : Bool := false
  peerEnded : Bool := false
  deriving DecidableEq

namespace Conditions

def isReady (c : Conditions) : Direction → Bool
  | .read => c.input || c.hangUp || c.fault
  | .write => c.output || c.hangUp || c.fault

def meets (c : Conditions) (interest : Interest) : Bool :=
  (interest.read && c.input) || (interest.write && c.output) ||
    (interest.close && c.peerEnded) || c.hangUp || c.fault

end Conditions

def localConditions (m : Machine) (socket : LocalSocket) : Conditions where
  input := !socket.inbox.isEmpty || socket.receiveEnded ||
    match socket.role with
    | .listening _ waiting => !waiting.isEmpty
    | _ => false
  output := m.isWritable socket
  hangUp := (socket.receiveEnded && socket.sendEnded) ||
    match socket.form, socket.role with
    | .datagrams, _ => false
    | _, .idle => true
    | _, _ => false
  fault := socket.reset
  peerEnded := socket.receiveEnded

/-- An unconnected stream socket counts as hung up. -/
def netConditions (socket : NetSocket) : Conditions :=
  if socket.listening then {}
  else {
    input := socket.receiveEnded
    output := true
    hangUp := socket.form = .stream || (socket.receiveEnded && socket.sendEnded)
    peerEnded := socket.receiveEnded }

/-- The conditions of an object. A watch is readable while one of its targets meets what is asked
of it; `depth` bounds how far watches of watches are looked into. -/
def conditions (m : Machine) : (depth : Nat) → Object → Conditions
  | _, { resource := .device, .. } => { input := true, output := true }
  | _, { resource := .pipe, .. } => { hangUp := true }
  | _, { resource := .counter value, .. } => { input := value ≠ 0, output := true }
  | _, { resource := .socket _ _ (.unix socket), .. } => m.localConditions socket
  | _, { resource := .socket _ _ (.net socket), .. } => netConditions socket
  | _, { resource := .socket _ _ _, .. } => { output := true }
  | 0, { resource := .watch _, .. } => {}
  | depth + 1, { resource := .watch registrations, .. } =>
    { input := registrations.any fun r =>
        match m.object? r.target with
        | some target => (m.conditions depth target).meets r.interest
        | none => false }

/-- Whether a wait for this entry is over. There is nothing to wait for on a closed descriptor. -/
def isReady (m : Machine) (entry : PollEntry) : Bool :=
  match m.opened? entry.descriptor with
  | none => true
  | some object => (m.conditions m.objects.length object).isReady entry.direction

/-- Lets time pass until a condition holds, a signal strikes, or the deadline is over; tells whether
a signal struck. A wait that nothing can end is over at once. -/
def await (holds : Machine → Bool) (deadline : Option Nat) :
    List (Nat × Event) → Machine → Bool × Machine
  | [], m =>
    if holds m then (false, { m with agenda := [] })
    else (false, { m with agenda := [], now := max m.now (deadline.getD m.now) })
  | (moment, event) :: rest, m =>
    if holds m then (false, { m with agenda := (moment, event) :: rest })
    else if deadline.any (· < moment) then
      (false, { m with
        agenda := (moment, event) :: rest
        now := max m.now (deadline.getD m.now) })
    else
      let m := { m with now := max m.now moment }
      match event with
      | .signal => (true, { m with agenda := rest })
      | .raise counter => await holds deadline rest (m.raise counter)

def signalCount (m : Machine) : Nat :=
  (m.agenda.filter fun entry => match entry.2 with
    | .signal => true
    | .raise _ => false).length

/-- There cannot be more entries than there can be descriptors, those that are reserved included. -/
def pollAnswer (signals : Nat) (entries : List PollEntry) (millis : Option Nat) (m : Machine) :
    PollAnswer signals entries.length × Machine :=
  if m.descriptorLimit.any (· + m.reserved < entries.length) then (.failed .invalidArgument, m)
  else
    let deadline := millis.map fun ms => m.now + (Duration.ofMillis ms).nanos
    let (struck, m) := m.await (fun m => entries.any m.isReady) deadline m.agenda
    if pending : struck ∧ 0 < signals then (.interrupted ⟨signals - 1, by omega⟩, m)
    else (.returned fun i => m.isReady entries[i], m)

/-- Lets time pass to a moment, and with it all that is due by then. -/
def sleepUntil (m : Machine) (moment : Nat) : Machine :=
  let due := m.agenda.filter fun entry => entry.1 ≤ moment
  due.foldl (fun m entry => match entry.2 with
    | .signal => m
    | .raise counter => m.raise counter)
    { m with
      now := max m.now moment
      agenda := m.agenda.filter fun entry => moment < entry.1 }

/-- Writes an event on the agenda, behind all that happen no later. -/
def schedule (m : Machine) (moment : Nat) (event : Event) : Machine :=
  { m with agenda :=
      m.agenda.filter (fun entry => entry.1 ≤ moment) ++ (moment, event) ::
        m.agenda.filter fun entry => moment < entry.1 }

/-- The watch behind a descriptor with its targets, and the target to be watched. -/
def findWatch (watch target : Descriptor) :
    Operation (Serial × List Registration × Serial) := do
  let (w, watcher) ← find watch
  let (t, watched) ← find target
  if let .device := watched.resource then throw .notPermitted
  match watcher.resource with
  | .watch registrations =>
    if w = t then throw .invalidArgument
    return (w, registrations, t)
  | _ => throw .invalidArgument

/-- So many watches may lie below a new one, each watching the next. -/
def nestingLimit : Nat := 4

/-- How many watches lie in a row from an object downwards, counted up to `depth`. -/
def nesting (m : Machine) : (depth : Nat) → Serial → Nat
  | 0, _ => 0
  | depth + 1, s =>
    match m.object? s with
    | some { resource := .watch registrations, .. } =>
      registrations.foldl (fun n r => max n (m.nesting depth r.target)) 0 + 1
    | _ => 0

/-- What lies at the bottom of an object: the object itself unless it is a watch. -/
def bottoms (m : Machine) : (depth : Nat) → Serial → List Serial
  | 0, _ => []
  | depth + 1, s =>
    match m.object? s with
    | some { resource := .watch registrations, .. } =>
      registrations.flatMap fun r => m.bottoms depth r.target
    | _ => [s]

def watchersOf (m : Machine) (s : Serial) : List Serial :=
  m.objects.filterMap fun o =>
    match o.2.resource with
    | .watch registrations => if registrations.any (·.target = s) then some o.1 else none
    | _ => none

/-- How many watches that nobody watches lie `height` watches above an object. -/
def topsAbove (m : Machine) : (height : Nat) → Serial → Nat
  | 0, s => if (m.watchersOf s).isEmpty then 1 else 0
  | height + 1, s => (m.watchersOf s).foldl (fun n w => n + m.topsAbove height w) 0

/-- How many watches that nobody watches may lie so many watches above one object. -/
def heightLimits : List (Nat × Nat) := [(2, 500), (3, 100), (4, 50), (5, 10)]

/-- Whether too many watches would be woken by what lies at the bottom of an object. -/
def isCrowded (m : Machine) (s : Serial) : Bool :=
  (m.bottoms (nestingLimit + 1) s).any fun bottom =>
    heightLimits.any fun (height, limit) => limit < m.topsAbove height bottom

def watchAdd (watch target : Descriptor) (interest : Interest) : Operation Unit := do
  let (w, registrations, t) ← findWatch watch target
  let m ← get
  if nestingLimit < m.nesting (nestingLimit + 1) t then throw .tooManyLevels
  if registrations.any (·.target = t) then throw .fileExists
  let added := m.setResource w (.watch (registrations ++ [⟨t, interest⟩]))
  if added.isCrowded t then throw .invalidArgument
  set added

def watchModify (watch target : Descriptor) (interest : Interest) : Operation Unit := do
  let (w, registrations, t) ← findWatch watch target
  unless registrations.any (·.target = t) do throw .noEntry
  modify fun m => m.setResource w (.watch (registrations.map fun r =>
    if r.target = t then { r with interest } else r))

def watchRemove (watch target : Descriptor) : Operation Unit := do
  let (w, registrations, t) ← findWatch watch target
  unless registrations.any (·.target = t) do throw .noEntry
  modify fun m => m.setResource w (.watch (registrations.filter (·.target ≠ t)))

def eventSignal (d : Descriptor) : Operation Unit := do
  let (s, object) ← find d
  match object.resource with
  | .counter _ => modify fun m => m.raise s
  | _ => throw .invalidArgument

end StreamTransport.Machine
