import StreamTransport.Proofs.Stream.Drain

/-!
# Blocked flags

A writer shows whether it is held up: in writing as long as something is queued,
and in reading from a read that would have had to wait until the next read. That
holds after any calls and over any inner stream, also over one that is changed
behind the writer's back.
-/

set_option autoImplicit false

namespace StreamTransport.Buffered

variable {S Q : Type} [Fifo Q]

/-- What is done with a writer: a request, or a change of the inner stream. -/
inductive Use (S : Type) where
  | request (r : Request)
  | change (f : S → S)

namespace Use

variable [Duplex Id S]

def after (b : Buffered S Q) : Use S → Buffered S Q
  | request r => r.after b
  | change f => { b with inner := f b.inner }

def run (b : Buffered S Q) : List (Use S) → Buffered S Q
  | [] => b
  | u :: us => run (u.after b) us

def received? (b : Buffered S Q) : Use S → Option (Outcome (Progress Bytes))
  | request r => r.received? b
  | change _ => none

/-- The answer to the last read of a run, if there was a read. -/
def lastRead? (b : Buffered S Q) : List (Use S) → Option (Outcome (Progress Bytes))
  | [] => none
  | u :: us => (lastRead? (u.after b) us).or (u.received? b)

end Use

/-- The flags tell what is queued and how the last read ended. -/
structure Flagged (b : Buffered S Q) (last : Option (Outcome (Progress Bytes))) : Prop where
  writing : b.writeBlocked = true ↔ Fifo.bytes b.queue ≠ []
  reading : b.readBlocked = true ↔ last = some (.ok .wouldBlock)

theorem flagged_new (s : S) : Flagged (new (Q := Q) s) none where
  writing := by simp [new]
  reading := by simp [new]

theorem pending_pos_iff (b : Buffered S Q) : 0 < b.pending ↔ Fifo.bytes b.queue ≠ [] := by
  rw [pending_eq_length, List.length_pos_iff]

variable [Duplex Id S]

theorem readBlocked_read_iff (b : Buffered S Q) (size : Nat) :
    (Duplex.read (m := Id) b size).2.readBlocked = true ↔
      (Duplex.read (m := Id) b size).1 = .ok .wouldBlock := by
  change (read (m := Id) b size).2.readBlocked = true ↔ (read (m := Id) b size).1 = .ok .wouldBlock
  rcases answered : Duplex.read (m := Id) b.inner size with ⟨_ | _ | _ | _, inner⟩ <;>
    simp [read, answered, bind, pure]

namespace Flagged

variable {b : Buffered S Q} {last : Option (Outcome (Progress Bytes))}

theorem after (h : Flagged b last) (u : Use S) :
    Flagged (u.after b) ((u.received? b).or last) := by
  cases u with
  | change f => exact ⟨h.writing, h.reading⟩
  | request r =>
    cases r with
    | send c =>
      refine ⟨writeBlocked_perform_iff b c, ?_⟩
      change (c.perform b).2.readBlocked = true ↔ _
      rw [readBlocked_perform]
      exact h.reading
    | read size =>
      refine ⟨h.writing, (readBlocked_read_iff b size).trans ?_⟩
      simp [Use.received?, Request.received?]
    | wait direction timeout => exact ⟨h.writing, h.reading⟩
    | setNonblocking on => exact ⟨h.writing, h.reading⟩

theorem run (h : Flagged b last) (us : List (Use S)) :
    Flagged (Use.run b us) ((Use.lastRead? b us).or last) := by
  induction us generalizing b last with
  | nil => exact h
  | cons u us ih =>
    rw [Use.run, Use.lastRead?, Option.or_assoc]
    exact ih (h.after u)

end Flagged

/-- However a new writer is used, it is blocked in writing exactly if something is pending, and in
reading exactly if there was a read and the last one would have had to wait. -/
theorem blocked_flags_true (s : S) (us : List (Use S)) :
    let b : Buffered S Q := Use.run (.new s) us
    (b.writeBlocked = true ↔ 0 < b.pending) ∧
    (b.readBlocked = true ↔ Use.lastRead? (new (Q := Q) s) us = some (.ok .wouldBlock)) := by
  intro b
  have flagged : Flagged b _ := (flagged_new s).run us
  rw [Option.or_none] at flagged
  exact ⟨flagged.writing.trans (pending_pos_iff b).symm, flagged.reading⟩

end StreamTransport.Buffered
