import StreamTransport.Scenario.Stage

/-!
# Streams in a scenario

Raw streams, layers and buffered streams over one socket.
-/

set_option autoImplicit false

namespace StreamTransport.Scenario

def makeRaw (on name : Name) : Play Report := do
  match ← attempt (RawStream.ofSocket (← take on connected?)) with
  | .error cause => return .failed cause
  | .ok s =>
    store name (.raw s)
    return .wrapped s.family s.kind

def makeLayer (on name : Name) : Play Report := do
  match ← attempt (Layer.ofSocket (← take on connected?)) with
  | .error cause => return .failed cause
  | .ok l =>
    store name (.layer l)
    return .closed l.isClosed

def buffer (on name : Name) : Play Report := do
  let s ← take on raw?
  store name (.buffered (.new s))
  return .done

def unbuffer (on name : Name) : Play Report := do
  let b ← take on buffered?
  store name (.raw b.inner)
  return .done

/-- The raw stream that a stream rests on. -/
def bottom? : Value → Option RawStream
  | .raw s => some s
  | .layer l => some l.stream
  | .buffered b => some b.inner
  | _ => none

/-- Drives a buffered stream and keeps what it has become. -/
def drive {α : Type} (on : Name)
    (operation : Buffered RawStream → Program (Outcome α × Buffered RawStream))
    (b : Buffered RawStream) : Play (Outcome α × Buffered RawStream) := do
  let (outcome, b) ← run (operation b)
  replace on (.buffered b)
  return (outcome, b)

def read (on : Name) (size : Nat) : Play Report := do
  match ← value on with
  | .raw s => return orFailed (← attempt (s.read size)) .read
  | .layer l => return orFailed (← attempt (l.read size)) .read
  | .buffered b => return orFailed (← drive on (·.read size) b).1 .read
  | _ => throw .notStream

def blockedFacts (b : Buffered RawStream) : List Fact :=
  [.writeBlocked b.writeBlocked, .readBlocked b.readBlocked]

def isQueued (b : Buffered RawStream) : Fact := .queued (0 < b.pending)

def write (on : Name) (data : Bytes) : Play (Report × List Fact) := do
  match ← value on with
  | .raw s => return (orFailed (← attempt (s.write data)) .wrote, [])
  | .layer l => return (orFailed (← attempt (l.write data)) .wrote, [])
  | .buffered b =>
    let (outcome, b) ← drive on (·.write data) b
    return (orFailed outcome .wrote, isQueued b :: blockedFacts b)
  | _ => throw .notStream

/-- What `fill` writes at once, and how often at most. -/
def fillPiece : Bytes := List.replicate 65536 7

def fillLimit : Nat := 16

/-- Writes until a write moves nothing. -/
def fillOn (on : Name) : (times : Nat) → Play Report
  | 0 => return (← write on fillPiece).1
  | times + 1 => do
    match (← write on fillPiece).1 with
    | .wrote (.moved _) => fillOn on times
    | last => return last

def flush (on : Name) : Play (Report × List Fact) := do
  match ← value on with
  | .buffered b =>
    let (outcome, b) ← drive on Buffered.flush b
    return (doneOr outcome, [isQueued b, .writeBlocked b.writeBlocked])
  | .raw s => return (doneOr (← run (Duplex.flush s)).1, [])
  | _ => throw .notStream

/-- How much `pump` reads at once: more than can be on its way. -/
def pumpPiece : Nat := 1048576

/-- Flushes and reads at the peer in turn until `left` bytes or more have arrived, a flush fails,
or nothing more can be read. -/
def pumpOn (on : Name) (d : Descriptor) : (left : Nat) → Buffered RawStream →
    Play (Outcome Unit × Bytes × Buffered RawStream)
  | 0, b => return (.ok (), [], b)
  | left + 1, b => do
    match ← drive on Buffered.flush b with
    | (.error cause, b) => return (.error cause, [], b)
    | (.ok (), b) =>
      match ← operate (Machine.read d pumpPiece) with
      | .ok (first :: others) =>
        let (outcome, data, b) ← pumpOn on d (left - others.length) b
        return (outcome, first :: others ++ data, b)
      | _ => return (.ok (), [], b)

def pump (on peer : Name) (size : Nat) : Play (Report × List Fact) := do
  let b ← look on buffered?
  let d ← look peer held?
  let (outcome, data, b) ← pumpOn on d size b
  return (doneOr outcome, [.pending b.pending, .writeBlocked b.writeBlocked, .received data])

def close (on : Name) : Play Report := do
  match ← value on with
  | .raw s =>
    let s ← run s.close
    replace on (.raw s)
    return .closed s.isClosed
  | .layer l =>
    let l ← run l.close
    replace on (.layer l)
    return .closed l.isClosed
  | .buffered b =>
    let inner ← run b.inner.close
    replace on (.buffered { b with inner })
    return .closed inner.isClosed
  | _ => throw .notStream

def wait (on : Name) (direction : Direction) (timeout : Duration) : Play Report := do
  match bottom? (← value on) with
  | some s => return orFailed (← attempt (s.wait direction timeout)) fun r => .ready (r = .ready)
  | none => throw .notStream

def changeMode (on : Name) (mode : Bool) : Play Report := do
  match ← value on with
  | .socket s => return doneOr (← attempt (s.descriptor.setNonblocking mode))
  | .connected s => return doneOr (← attempt (s.descriptor.setNonblocking mode))
  | .raw s => return doneOr (← attempt (s.setNonblocking mode))
  | .buffered b => return doneOr (← attempt (b.inner.setNonblocking mode))
  | _ => throw .notStream

def signaled (s : RawStream) : Play (Option Bool) := do
  match s.watch with
  | none => return none
  | some w => return (← attempt w.isRaised).toOption

def state (on : Name) : Play Report := do
  match (← value? on).bind bottom? with
  | none => throw .notStream
  | some s =>
    return .stream {
      closed := s.isClosed
      nonblocking := ← attempt s.isNonblocking
      localName := ← namedOutcome (← attempt s.localAddress)
      peerName := ← namedOutcome (← attempt s.peerAddress)
      peerText := ← attempt s.peerText
      signaled := ← signaled s }

def pending (on : Name) : Play (Report × List Fact) := do
  let b ← look on buffered?
  return (.nothing, .pending b.pending :: blockedFacts b)

end StreamTransport.Scenario
