import StreamTransport.Proofs.Stream.Honesty

/-!
# What a drain does

A drain is a sequence of offers to the inner stream. Every offer is the first
chunk of the queue; one that is taken is followed by the next, and any other is
the last. `Drains` says this once, together with the result and the writer that
is left, and the later modules argue by induction on it.

The offers are those that the inner stream sees: an observed stream answers as
the stream it observes and keeps every write that was made on it.
-/

set_option autoImplicit false

namespace StreamTransport

/-- A write on the inner stream: the stream as it was, the bytes, and the answer. -/
structure Offer (S : Type) where
  before : S
  data : Bytes
  answer : Outcome (Progress Nat)

/-- The last offer fails, and none before it. -/
def Breaks {S : Type} (offers : List (Offer S)) (cause : Failure) : Prop :=
  ∃ earlier o, offers = earlier ++ [o] ∧ (∀ e ∈ earlier, failure? e.answer = none) ∧
    failure? o.answer = some cause

structure Observed (S : Type) where
  stream : S
  offers : List (Offer S)

namespace Observed

variable {m : Type → Type} {S : Type}

/-- Runs an operation of the stream and keeps the offers. -/
def quietly [Monad m] {α : Type} (o : Observed S) (operation : S → m (α × S)) :
    m (α × Observed S) := do
  let (answer, stream) ← operation o.stream
  pure (answer, { o with stream })

def write [Monad m] [Duplex m S] (o : Observed S) (data : Bytes) :
    m (Outcome (Progress Nat) × Observed S) := do
  let (answer, stream) ← Duplex.write o.stream data
  pure (answer, ⟨stream, o.offers ++ [⟨o.stream, data, answer⟩]⟩)

instance [Monad m] [Duplex m S] : Duplex m (Observed S) where
  read o size := o.quietly fun s => Duplex.read s size
  write := write
  flush o := o.quietly Duplex.flush
  wait o direction timeout := o.quietly fun s => Duplex.wait s direction timeout
  setNonblocking o on := o.quietly fun s => Duplex.setNonblocking s on

theorem write_eq [Duplex Id S] {s after : S} {data : Bytes} {answer : Outcome (Progress Nat)}
    {record : List (Offer S)} (h : Duplex.write (m := Id) s data = (answer, after)) :
    Duplex.write (m := Id) (⟨s, record⟩ : Observed S) data =
      (answer, ⟨after, record ++ [⟨s, data, answer⟩]⟩) := by
  change (write (m := Id) ⟨s, record⟩ data : _ × _) = _
  simp only [write, h]
  rfl

end Observed

namespace Buffered

variable {S Q : Type} [Fifo Q]

theorem pending_eq_length (b : Buffered S Q) : b.pending = (Fifo.bytes b.queue).length :=
  (Fifo.length_bytes b.queue).symm

/-- The writer as a sending hands it to the drain. -/
def loaded (b : Buffered S Q) : Sending → Buffered S Q
  | .write data => { b with queue := Fifo.push b.queue data, writeBlocked := false }
  | .flush => { b with writeBlocked := false }

@[simp] theorem bytes_loaded (b : Buffered S Q) (c : Sending) :
    Fifo.bytes (b.loaded c).queue = Fifo.bytes b.queue ++ c.bytes := by
  cases c <;> simp [loaded, Sending.bytes]

@[simp] theorem inner_loaded (b : Buffered S Q) (c : Sending) : (b.loaded c).inner = b.inner := by
  cases c <;> rfl

@[simp] theorem writeBlocked_loaded (b : Buffered S Q) (c : Sending) :
    (b.loaded c).writeBlocked = false := by
  cases c <;> rfl

@[simp] theorem readBlocked_loaded (b : Buffered S Q) (c : Sending) :
    (b.loaded c).readBlocked = b.readBlocked := by
  cases c <;> rfl

/-- The same writer over the same stream, with the offers observed from here on. -/
def observed (b : Buffered S Q) (record : List (Offer S)) : Buffered (Observed S) Q :=
  { b with inner := ⟨b.inner, record⟩ }

theorem loaded_observed (b : Buffered S Q) (record : List (Offer S)) (c : Sending) :
    (b.observed record).loaded c = (b.loaded c).observed record := by
  cases c <;> rfl

variable [Duplex Id S]

inductive Drains : Buffered S Q → List (Offer S) → Outcome Unit → Buffered S Q → Prop
  | idle {b : Buffered S Q} (empty : Fifo.front b.queue = []) : Drains b [] (.ok ()) b
  | accepted {b after : Buffered S Q} {inner : S} {n : Nat} {offers : List (Offer S)}
      {result : Outcome Unit} (queued : Fifo.front b.queue ≠ [])
      (answered : Duplex.write (m := Id) b.inner (Fifo.front b.queue) =
        (.ok (.moved (n + 1)), inner))
      (rest : Drains { b with inner, queue := Fifo.drop b.queue (n + 1) } offers result after) :
      Drains b (⟨b.inner, Fifo.front b.queue, .ok (.moved (n + 1))⟩ :: offers) result after
  | refused {b : Buffered S Q} {inner : S} {answer : Outcome (Progress Nat)}
      (queued : Fifo.front b.queue ≠ [])
      (answered : Duplex.write (m := Id) b.inner (Fifo.front b.queue) = (answer, inner))
      (nothing : answer = .ok (.moved 0) ∨ answer = .ok .wouldBlock) :
      Drains b [⟨b.inner, Fifo.front b.queue, answer⟩] (.ok ())
        { b with inner, writeBlocked := true }
  | failed {b : Buffered S Q} {inner : S} {answer : Outcome (Progress Nat)} {cause : Failure}
      (queued : Fifo.front b.queue ≠ [])
      (answered : Duplex.write (m := Id) b.inner (Fifo.front b.queue) = (answer, inner))
      (fatal : failure? answer = some cause) :
      Drains b [⟨b.inner, Fifo.front b.queue, answer⟩] (.error cause)
        { b with inner, queue := Fifo.clear b.queue }

theorem drain_idle {b : Buffered S Q} (empty : Fifo.front b.queue = []) :
    drain (m := Id) b = (.ok (), b) := by
  rw [drain, if_pos empty]
  rfl

/-- A drain by its first offer. -/
theorem drain_offer {b : Buffered S Q} (queued : Fifo.front b.queue ≠ []) :
    drain (m := Id) b =
      match Duplex.write (m := Id) b.inner (Fifo.front b.queue) with
      | (.ok (.moved (n + 1)), inner) =>
        drain (m := Id) { b with inner, queue := Fifo.drop b.queue (n + 1) }
      | (.ok (.moved 0), inner) => (.ok (), { b with inner, writeBlocked := true })
      | (.ok .wouldBlock, inner) => (.ok (), { b with inner, writeBlocked := true })
      | (.ok .endOfStream, inner) =>
        (.error (.stream .connectionClosed), { b with inner, queue := Fifo.clear b.queue })
      | (.error cause, inner) => (.error cause, { b with inner, queue := Fifo.clear b.queue }) := by
  rw [drain, if_neg queued]
  rcases Duplex.write (m := Id) b.inner (Fifo.front b.queue) with ⟨answer, inner⟩
  rcases answer with cause | (n | _) | _ | _ <;> rfl

theorem drains_drain (b : Buffered S Q) :
    ∃ offers, Drains b offers (drain (m := Id) b).1 (drain (m := Id) b).2 := by
  by_cases empty : Fifo.front b.queue = []
  · rw [drain_idle empty]
    exact ⟨[], .idle empty⟩
  · rw [drain_offer empty]
    rcases answered : Duplex.write (m := Id) b.inner (Fifo.front b.queue) with
      ⟨cause | (n | n) | _ | _, inner⟩
    · exact ⟨_, .failed empty answered rfl⟩
    · exact ⟨_, .refused empty answered (.inl rfl)⟩
    · obtain ⟨offers, rest⟩ :=
        drains_drain { b with inner, queue := Fifo.drop b.queue (n + 1) }
      exact ⟨_, .accepted empty answered rest⟩
    · exact ⟨_, .refused empty answered (.inr rfl)⟩
    · exact ⟨_, .failed empty answered rfl⟩
termination_by Fifo.length b.queue
decreasing_by exact Fifo.length_drop_lt empty

namespace Drains

variable {b after : Buffered S Q} {offers : List (Offer S)} {result : Outcome Unit}

theorem drain_eq (h : Drains b offers result after) : drain (m := Id) b = (result, after) := by
  induction h with
  | idle empty => exact drain_idle empty
  | accepted queued answered _ ih =>
    rw [drain_offer queued, answered]
    exact ih
  | refused queued answered nothing =>
    rw [drain_offer queued, answered]
    rcases nothing with rfl | rfl <;> rfl
  | @failed b inner answer cause queued answered fatal =>
    rw [drain_offer queued, answered]
    rcases answer with cause | _ | _ | _ <;> cases fatal <;> rfl

/-- A drain succeeds if no offer of it fails. Otherwise the failure of the last offer is its
result, and nothing stays queued. -/
theorem outcome (h : Drains b offers result after) :
    (result = .ok () ∧ ∀ o ∈ offers, failure? o.answer = none) ∨
    ∃ cause, Breaks offers cause ∧ result = .error cause ∧ Fifo.bytes after.queue = [] ∧
      after.writeBlocked = b.writeBlocked := by
  induction h with
  | idle _ => exact .inl ⟨rfl, by simp⟩
  | accepted _ _ _ ih =>
    rcases ih with ⟨ok, none⟩ | ⟨cause, ⟨earlier, o, rfl, none, fatal⟩, failed, left, flag⟩
    · exact .inl ⟨ok, by simpa [failure?] using none⟩
    · refine .inr ⟨cause, ⟨_ :: earlier, o, rfl, ?_, fatal⟩, failed, left, flag⟩
      simpa [failure?] using none
  | refused _ _ nothing =>
    refine .inl ⟨rfl, ?_⟩
    rcases nothing with rfl | rfl <;> simp [failure?]
  | failed _ _ fatal => exact .inr ⟨_, ⟨[], _, rfl, by simp, fatal⟩, rfl, by simp, rfl⟩

/-- A writer is left blocked exactly if it is left with something queued. -/
theorem writeBlocked_iff (h : Drains b offers result after) (clear : b.writeBlocked = false) :
    after.writeBlocked = true ↔ Fifo.bytes after.queue ≠ [] := by
  induction h with
  | idle empty => simp [clear, (Fifo.front_eq_nil_iff _).mp empty]
  | accepted _ _ _ ih => exact ih clear
  | refused queued _ _ => simpa [Fifo.front_eq_nil_iff] using queued
  | failed _ _ _ => simp [clear]

theorem readBlocked_eq (h : Drains b offers result after) : after.readBlocked = b.readBlocked := by
  induction h with
  | idle _ => rfl
  | accepted _ _ _ ih => exact ih
  | refused _ _ _ => rfl
  | failed _ _ _ => rfl

end Drains

theorem offer_observed {b : Buffered S Q} {inner : S} {answer : Outcome (Progress Nat)}
    (answered : Duplex.write (m := Id) b.inner (Fifo.front b.queue) = (answer, inner))
    (record : List (Offer S)) :
    Duplex.write (m := Id) (b.observed record).inner (Fifo.front (b.observed record).queue) =
      (answer, ⟨inner, record ++ [⟨b.inner, Fifo.front b.queue, answer⟩]⟩) :=
  Observed.write_eq answered

/-- An observed drain is the same drain, and the record grows by its offers. -/
theorem Drains.drain_observed {b after : Buffered S Q} {offers : List (Offer S)}
    {result : Outcome Unit} (h : Drains b offers result after) (record : List (Offer S)) :
    drain (m := Id) (b.observed record) = (result, after.observed (record ++ offers)) := by
  induction h generalizing record with
  | idle empty =>
    rw [List.append_nil]
    exact drain_idle empty
  | @accepted b after inner n offers result queued answered _ ih =>
    have next := ih (record ++ [⟨b.inner, Fifo.front b.queue, .ok (.moved (n + 1))⟩])
    rw [List.append_assoc] at next
    rw [drain_offer (by exact queued), offer_observed answered]
    exact next
  | refused queued answered nothing =>
    rw [drain_offer (by exact queued), offer_observed answered]
    rcases nothing with rfl | rfl <;> rfl
  | @failed b inner answer cause queued answered fatal =>
    rw [drain_offer (by exact queued), offer_observed answered]
    rcases answer with cause | _ | _ | _ <;> cases fatal <;> rfl

theorem perform_eq (b : Buffered S Q) (c : Sending) :
    c.perform b = ((drain (m := Id) (b.loaded c)).1.map fun _ => c.receipt,
      (drain (m := Id) (b.loaded c)).2) := by
  cases c with
  | write data =>
    have twice (result : Outcome Unit) : (result.map fun _ => Progress.moved data.length).map some =
        result.map fun _ => some (Progress.moved data.length) := by
      cases result <;> rfl
    exact Prod.ext (twice _) rfl
  | flush => rfl

/-- The offers that a sending makes to the inner stream. -/
def offers (b : Buffered S Q) (c : Sending) : List (Offer S) :=
  (c.perform (b.observed [])).2.inner.offers

/-- A drain of the loaded writer is the sending that loaded it. -/
theorem Drains.sending {b after : Buffered S Q} {c : Sending} {offers : List (Offer S)}
    {result : Outcome Unit} (h : Drains (b.loaded c) offers result after) :
    b.offers c = offers ∧ c.perform b = (result.map fun _ => c.receipt, after) := by
  constructor
  · rw [Buffered.offers, perform_eq, loaded_observed, h.drain_observed]
    rfl
  · rw [perform_eq, h.drain_eq]

/-- A sending is a drain of the writer it has loaded, and the offers are what the drain offers. -/
theorem drains_perform (b : Buffered S Q) (c : Sending) :
    ∃ result, Drains (b.loaded c) (b.offers c) result (c.perform b).2 ∧
      (c.perform b).1 = result.map fun _ => c.receipt := by
  obtain ⟨offers, drained⟩ := drains_drain (b.loaded c)
  obtain ⟨seen, performed⟩ := drained.sending
  rw [seen, performed]
  exact ⟨_, drained, rfl⟩

/-- After a sending the writer is blocked exactly if something is queued. -/
theorem writeBlocked_perform_iff (b : Buffered S Q) (c : Sending) :
    (c.perform b).2.writeBlocked = true ↔ Fifo.bytes (c.perform b).2.queue ≠ [] := by
  obtain ⟨_, drained, _⟩ := drains_perform b c
  exact drained.writeBlocked_iff (writeBlocked_loaded b c)

theorem readBlocked_perform (b : Buffered S Q) (c : Sending) :
    (c.perform b).2.readBlocked = b.readBlocked := by
  obtain ⟨_, drained, _⟩ := drains_perform b c
  rw [drained.readBlocked_eq, readBlocked_loaded]

/-- Observing a writer changes neither what it answers nor what becomes of it. -/
theorem perform_observed (b : Buffered S Q) (record : List (Offer S)) (c : Sending) :
    c.perform (b.observed record) =
      ((c.perform b).1, (c.perform b).2.observed (record ++ b.offers c)) := by
  obtain ⟨result, drained, answered⟩ := drains_perform b c
  rw [perform_eq, loaded_observed, drained.drain_observed, answered]

end Buffered
end StreamTransport
