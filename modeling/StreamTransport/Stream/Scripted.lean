import StreamTransport.Stream.Basic

/-!
# Scripted streams

A stream that follows a script: one verdict for each write until the script is
used up, then a rule for every later one, and one entry after another for the
reads. It keeps the bytes it took and the calls that were made on it, the
newest in front; `taken` and `calls` are the views in the order of time.
-/

set_option autoImplicit false

namespace StreamTransport

/-- What becomes of one write. -/
inductive Verdict where
  | block
  | endOfStream
  | accept (limit : Nat)
  | misreport (count : Nat)
  | fail (errno : Errno)
  deriving DecidableEq, Repr

/-- What becomes of the writes behind the script. -/
inductive WriteRule where
  | all
  | always (verdict : Verdict)
  | cycle (limits : List Nat) (position : Nat)
  | credit (left : Nat)
  deriving DecidableEq, Repr

inductive ReadEntry where
  | data (bytes : Bytes)
  | endOfStream
  | fail (errno : Errno)
  | block
  deriving DecidableEq, Repr

/-- A call on the stream, and its answer. -/
inductive StreamCall where
  | read (size : Nat) (answer : Outcome (Progress Nat))
  | write (offered : Bytes) (answer : Outcome (Progress Nat))
  | wait (direction : Direction) (timeout : Duration)

structure Scripted where
  paused : Bool
  script : List Verdict
  rule : WriteRule
  reads : List ReadEntry
  pieces : List Bytes
  history : List StreamCall

namespace Scripted

def taken (s : Scripted) : Bytes := s.pieces.reverse.flatten

def calls (s : Scripted) : List StreamCall := s.history.reverse

def new (script : List Verdict) (rule : WriteRule) (reads : List ReadEntry) : Scripted :=
  ⟨false, script, rule, reads, [], []⟩

/-- What a verdict takes of a write, and the answer it gives. -/
def apply (data : Bytes) : Verdict → Bytes × Outcome (Progress Nat)
  | .block => ([], .ok .wouldBlock)
  | .endOfStream => ([], .ok .endOfStream)
  | .accept limit =>
    let piece := data.take limit
    (piece, .ok (.moved piece.length))
  | .misreport count => (data.take count, .ok (.moved count))
  | .fail errno => ([], .error (.stream (.write errno)))

/-- The verdict of a rule, and the rule for the next write. What takes nothing from a credit
blocks. -/
def ruling (data : Bytes) : WriteRule → Verdict × WriteRule
  | .all => (.accept data.length, .all)
  | .always verdict => (verdict, .always verdict)
  | .cycle limits position =>
    let limit := limits.getD (position % limits.length) 0
    (if limit = 0 then .block else .accept limit, .cycle limits (position + 1))
  | .credit left =>
    let took := (data.take left).length
    (if took = 0 then .block else .accept left, .credit (left - took))

/-- The verdict on the next write, and the stream with that verdict used up. -/
def nextVerdict (s : Scripted) (data : Bytes) : Verdict × Scripted :=
  if s.paused then (.block, s)
  else
    match s.script with
    | verdict :: rest => (verdict, { s with script := rest })
    | [] =>
      let (verdict, rule) := ruling data s.rule
      (verdict, { s with rule })

def write (s : Scripted) (data : Bytes) : Outcome (Progress Nat) × Scripted :=
  let (verdict, s) := s.nextVerdict data
  let (piece, answer) := apply data verdict
  (answer, { s with
    pieces := piece :: s.pieces
    history := .write data answer :: s.history })

/-- The next entry in answer to a read of `size` bytes, and the entries after it. -/
def nextRead (size : Nat) : List ReadEntry → Outcome (Progress Bytes) × List ReadEntry
  | [] => (.ok .wouldBlock, [])
  | .block :: rest => (.ok .wouldBlock, rest)
  | .endOfStream :: rest => (.ok .endOfStream, rest)
  | .fail errno :: rest => (.error (.stream (.read errno)), rest)
  | .data bytes :: rest =>
    let left := bytes.drop size
    (.ok (.moved (bytes.take size)), if left.isEmpty then rest else .data left :: rest)

def read (s : Scripted) (size : Nat) : Outcome (Progress Bytes) × Scripted :=
  let (answer, reads) := nextRead size s.reads
  (answer, { s with
    reads
    history := .read size (answer.map fun p => p.map List.length) :: s.history })

/-- Ready to be written unless paused, and to be read unless the next entry is to block. -/
def isReady (s : Scripted) : Direction → Bool
  | .write => !s.paused
  | .read =>
    match s.reads with
    | [] => false
    | .block :: _ => false
    | _ => true

def wait (s : Scripted) (direction : Direction) (timeout : Duration) :
    Outcome Readiness × Scripted :=
  (.ok (if s.isReady direction then .ready else .timedOut),
    { s with history := .wait direction timeout :: s.history })

def pause (s : Scripted) (on : Bool) : Scripted := { s with paused := on }

/-- Raises the credit, where the rule keeps one. -/
def grant (s : Scripted) (n : Nat) : Scripted :=
  match s.rule with
  | .credit left => { s with rule := .credit (left + n) }
  | _ => s

instance : StreamStatus Scripted where
  unsent _ := 0
  readBlocked _ := false
  writeBlocked _ := false
  watchable _ := false

instance {m : Type → Type} [Monad m] : Duplex m Scripted where
  read s size := pure (s.read size)
  write s data := pure (s.write data)
  flush s := pure (.ok (), s)
  wait s direction timeout := pure (s.wait direction timeout)
  setNonblocking s _ := pure (.ok (), s)

end Scripted
end StreamTransport
