import StreamTransport.Proofs.System.Contracts
import StreamTransport.Socket.RawStream
import StreamTransport.Stream.Buffered
import StreamTransport.Proofs.Stream.Runs

/-!
# Failures that are final

A failure has a kind, and two of the kinds tell the caller to try again. A raw stream takes
a refusal that is transient for a wait, so what it fails with is never of these kinds. A
writer over a stream fails only as that does or because that is at its end, and so it is
with any number of writers on top of each other.
-/

set_option autoImplicit false

namespace StreamTransport

/-- The numbers of refusals that are taken for a wait. -/
def Errno.transient : List Errno := [tryAgain, interrupted, inProgress, already]

theorem Errno.isTransient_iff {e : Errno} : e.isTransient = true ↔ e ∈ transient := by
  simp [isTransient, transient, or_assoc]

/-- A caller who tries again where the kind of a failure asks for it does not do so here. -/
def Failure.Final (cause : Failure) : Prop :=
  cause.kind ≠ .wouldBlock ∧ cause.kind ≠ .interrupted

/-- The table of kinds asks for another try for transient numbers only. -/
theorem Errno.final_kind {e : Errno} (h : e.isTransient = false) :
    e.kind ≠ .wouldBlock ∧ e.kind ≠ .interrupted := by
  obtain ⟨number⟩ := e
  unfold kind
  split <;> simp_all [isTransient, tryAgain, interrupted]

open Program

variable {S Q : Type} [Fifo Q] {past : List Event}

/-- Ends, if it fails, with a final failure. -/
def FailsFinally {α σ : Type} (r : Outcome α × σ) (_ : List Event) : Prop :=
  ∀ cause, r.1 = .error cause → cause.Final

theorem failsFinally_error {α σ : Type} {cause : Failure} (h : cause.Final) (s : σ)
    (events : List Event) : FailsFinally ((.error cause : Outcome α), s) events := by
  intro _ same
  cases same
  exact h

theorem FailsFinally.map {α β σ τ : Type} {outcome : Outcome α} {s : σ}
    (final : FailsFinally (outcome, s) past) (f : α → β) (t : τ) (events : List Event) :
    FailsFinally (outcome.map f, t) events := by
  cases outcome with
  | ok a => exact nofun
  | error cause => exact failsFinally_error (final cause rfl) t events

theorem final_of_runs {α σ : Type} {p : Program (Outcome α × σ)}
    (meets : p.Meets recording [] FailsFinally) {events : List Event} {cause : Failure} {s : σ}
    (runs : Runs p events (.error cause, s)) : cause.Final :=
  meets_recording_iff.mp meets events _ runs cause rfl

/-- What moves bytes does so, or has to wait, or fails for good. -/
structure Decided (S : Type) [Duplex Program S] : Prop where
  read (s : S) (size : Nat) (past : List Event) :
    (Duplex.read (m := Program) s size).Meets recording past FailsFinally
  write (s : S) (data : Bytes) (past : List Event) :
    (Duplex.write (m := Program) s data).Meets recording past FailsFinally
  flush (s : S) (past : List Event) :
    (Duplex.flush (m := Program) s).Meets recording past FailsFinally

namespace RawStream

theorem final_refusal {α : Type} {errno : Errno} {cause : Failure} (same : cause.kind = errno.kind)
    (a : α) : (if errno.isTransient then pure a else throw cause : Attempt Failure α).Meets
      recording past (fun _ _ => True) fun cause _ => cause.Final := by
  by_cases transient : errno.isTransient = true
  · rw [if_pos transient]
    trivial
  · rw [if_neg transient]
    show cause.Final
    unfold Failure.Final
    rw [same]
    exact Errno.final_kind (Bool.eq_false_iff.mpr transient)

theorem final_read (s : RawStream) (size : Nat) :
    (s.read size).Meets recording past (fun _ _ => True) fun cause _ => cause.Final := by
  unfold read openDescriptor
  cases s.descriptor with
  | none => exact ⟨by decide, by decide⟩
  | some d =>
    show (if size = 0 then _ else _ : Attempt Failure (Progress Bytes)).Meets _ _ _ _
    split
    · trivial
    · apply Attempt.meets_bind.mpr
      apply Attempt.meets_always.mpr
      refine ⟨trivial, fun (reply : Reply Bytes) _ => ?_⟩
      rcases reply with errno | (_ | _)
      · exact final_refusal rfl _
      · trivial
      · trivial

theorem final_write (s : RawStream) (data : Bytes) :
    (s.write data).Meets recording past (fun _ _ => True) fun cause _ => cause.Final := by
  unfold write openDescriptor
  cases s.descriptor with
  | none => exact ⟨by decide, by decide⟩
  | some d =>
    show (if data.isEmpty then _ else _ : Attempt Failure (Progress Nat)).Meets _ _ _ _
    split
    · trivial
    · apply Attempt.meets_bind.mpr
      apply Attempt.meets_always.mpr
      refine ⟨trivial, fun (reply : Reply Nat) _ => ?_⟩
      cases reply with
      | ok n => trivial
      | error errno => exact final_refusal rfl _

theorem meets_keeping {α : Type} (s : RawStream) {p : Attempt Failure α}
    (h : p.Meets recording past (fun _ _ => True) fun cause _ => cause.Final) :
    (s.keeping p).Meets recording past FailsFinally := by
  apply meets_bind.mpr
  apply Attempt.meets_run_iff.mpr
  apply h.mono
  · exact fun _ _ _ => nofun
  · exact fun _ _ final => failsFinally_error final _ _

theorem decided : Decided RawStream where
  read s size _ := s.meets_keeping (s.final_read size)
  write s data _ := s.meets_keeping (s.final_write data)
  flush s _ := s.meets_keeping trivial

end RawStream

namespace Buffered

variable [Duplex Program S]

theorem decided_drain (inner : Decided S) (b : Buffered S Q) (past : List Event) :
    (drain (m := Program) b).Meets recording past FailsFinally := by
  by_cases empty : Fifo.front b.queue = []
  · rw [drain, if_pos empty]
    exact nofun
  · rw [drain, if_neg empty]
    apply meets_bind.mpr
    apply (inner.write b.inner (Fifo.front b.queue) past).mono
    rintro ⟨cause | (n | n) | _ | _, s⟩ past final
    · exact meets_bind.mpr ⟨trivial, fun _ _ => failsFinally_error (final cause rfl) _ past⟩
    · exact nofun
    · exact decided_drain inner { b with inner := s, queue := Fifo.drop b.queue (n + 1) } past
    · exact nofun
    · exact meets_bind.mpr
        ⟨trivial, fun _ _ => failsFinally_error ⟨by decide, by decide⟩ _ past⟩
termination_by Fifo.length b.queue
decreasing_by exact Fifo.length_drop_lt empty

/-- A writer fails only as the stream below it does, or because that is at its end. -/
theorem decided (inner : Decided S) : Decided (Buffered S Q) where
  read b size past := by
    apply meets_bind.mpr
    apply (inner.read b.inner size past).mono
    rintro ⟨answer, s⟩ past final
    exact final
  write b data past := by
    apply meets_bind.mpr
    apply (decided_drain inner _ past).mono
    exact fun r past final => final.map _ r.2 past
  flush b past := decided_drain inner _ past

end Buffered

/-- A sending, as what it asks of the system. -/
def Sending.program [Duplex Program S] (c : Sending) (s : S) :
    Program (Outcome (Option (Progress Nat)) × S) :=
  match c with
  | write data => do
    let (answer, s) ← Duplex.write s data
    pure (answer.map some, s)
  | flush => do
    let (answer, s) ← Duplex.flush s
    pure (answer.map fun _ => none, s)

theorem Decided.program [Duplex Program S] (decided : Decided S) (c : Sending) (s : S)
    (past : List Event) :
    (c.program s).Meets recording past FailsFinally := by
  cases c with
  | write data =>
    apply meets_bind.mpr
    apply (decided.write s data past).mono
    exact fun r past final => final.map _ r.2 past
  | flush =>
    apply meets_bind.mpr
    apply (decided.flush s past).mono
    exact fun r past final => final.map _ r.2 past

theorem Stack.decided [Duplex Program S] (inner : Decided S) : (n : Nat) → Decided (Stack S n)
  | 0 => inner
  | n + 1 => Buffered.decided (Stack.decided inner n)

end StreamTransport
