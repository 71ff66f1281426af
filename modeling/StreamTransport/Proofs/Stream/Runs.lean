import StreamTransport.Stream.Buffered

/-!
# Runs over a stream

The calls that are made on a stream, one after another. A sending is a write or
a flush; a request may also read, wait or change the mode. What a run submits
is what its writes were given, in order.
-/

set_option autoImplicit false

namespace StreamTransport

inductive Sending where
  | write (data : Bytes)
  | flush
  deriving DecidableEq, Repr

namespace Sending

variable {S : Type} [Duplex Id S]

/-- What is submitted. -/
def bytes : Sending → Bytes
  | write data => data
  | flush => []

/-- The answer to a sending that succeeds. -/
def receipt : Sending → Option (Progress Nat)
  | write data => some (.moved data.length)
  | flush => none

def perform (c : Sending) (s : S) : Outcome (Option (Progress Nat)) × S :=
  match c with
  | write data =>
    let (answer, s) := Duplex.write (m := Id) s data
    (answer.map some, s)
  | flush =>
    let (answer, s) := Duplex.flush (m := Id) s
    (answer.map fun _ => none, s)

theorem perform_write_eq_ok {s : S} {data : Bytes} {p : Progress Nat} :
    ((write data).perform s).1 = .ok (some p) ↔ (Duplex.write (m := Id) s data).1 = .ok p := by
  change (Duplex.write (m := Id) s data).1.map some = _ ↔ _
  rcases (Duplex.write (m := Id) s data).1 <;> simp [Except.map]

def run (s : S) : List Sending → S
  | [] => s
  | c :: cs => run (c.perform s).2 cs

def submitted (cs : List Sending) : Bytes := cs.flatMap bytes

/-- No call of the run fails. -/
def AllSucceed (s : S) : List Sending → Prop
  | [] => True
  | c :: cs => (c.perform s).1 = .ok c.receipt ∧ AllSucceed (c.perform s).2 cs

theorem run_append (s : S) (cs rest : List Sending) : run s (cs ++ rest) = run (run s cs) rest := by
  induction cs generalizing s with
  | nil => rfl
  | cons c cs ih => exact ih _

theorem run_concat (s : S) (cs : List Sending) (c : Sending) :
    run s (cs ++ [c]) = (c.perform (run s cs)).2 := run_append s cs [c]

@[simp] theorem submitted_nil : submitted [] = [] := rfl

@[simp] theorem submitted_cons (c : Sending) (cs : List Sending) :
    submitted (c :: cs) = c.bytes ++ submitted cs := rfl

theorem submitted_append (cs rest : List Sending) :
    submitted (cs ++ rest) = submitted cs ++ submitted rest := List.flatMap_append

theorem submitted_concat (cs : List Sending) (c : Sending) :
    submitted (cs ++ [c]) = submitted cs ++ c.bytes := by
  simp [submitted_append]

end Sending

inductive Request where
  | send (c : Sending)
  | read (size : Nat)
  | wait (direction : Direction) (timeout : Duration)
  | setNonblocking (on : Bool)

namespace Request

variable {S : Type} [Duplex Id S]

def bytes : Request → Bytes
  | send c => c.bytes
  | _ => []

/-- The stream after a request. -/
def after (r : Request) (s : S) : S :=
  match r with
  | send c => (c.perform s).2
  | read size => (Duplex.read (m := Id) s size).2
  | wait direction timeout => (Duplex.wait (m := Id) s direction timeout).2
  | setNonblocking on => (Duplex.setNonblocking (m := Id) s on).2

def run (s : S) : List Request → S
  | [] => s
  | r :: rs => run (r.after s) rs

def submitted (rs : List Request) : Bytes := rs.flatMap bytes

/-- The answer to a read. -/
def received? (s : S) : Request → Option (Outcome (Progress Bytes))
  | read size => some (Duplex.read (m := Id) s size).1
  | _ => none

/-- The answer to a sending. -/
def answered? (s : S) : Request → Option (Outcome (Option (Progress Nat)))
  | send c => some (c.perform s).1
  | _ => none

/-- What is seen of the requests of a run, in order. -/
def trace {α : Type} (seen? : S → Request → Option α) (s : S) : List Request → List α
  | [] => []
  | r :: rs => (seen? s r).toList ++ trace seen? (r.after s) rs

theorem run_append (s : S) (rs rest : List Request) : run s (rs ++ rest) = run (run s rs) rest := by
  induction rs generalizing s with
  | nil => rfl
  | cons r rs ih => exact ih _

theorem submitted_append (rs rest : List Request) :
    submitted (rs ++ rest) = submitted rs ++ submitted rest := List.flatMap_append

@[simp] theorem submitted_send (c : Sending) : submitted [.send c] = c.bytes :=
  List.append_nil _

end Request
end StreamTransport
