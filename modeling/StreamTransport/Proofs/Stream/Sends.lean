import StreamTransport.Proofs.Stream.Drain
import StreamTransport.Proofs.Stream.Finality

/-!
# Writing to a socket

An open raw stream asks the system once for each write that is not empty. So what a
buffered writer over it does is told by what the system says to one send after the other:
it is a writer over a stream whose answers are prescribed, and all that is known of writers
over any stream holds of it. A refusal that is transient makes the writer wait and loses
nothing. Any other ends the call.
-/

set_option autoImplicit false

namespace StreamTransport

open Program

/-! ### What is sent -/

/-- Bytes that the system was asked to send, and what it said. -/
structure Sent where
  data : Bytes
  reply : Reply Nat

namespace Sent

/-- As it is asked of the system. -/
def event (d : Descriptor) (s : Sent) : Event := ⟨.send d s.data, s.reply⟩

/-- What the stream answers. -/
def answer (s : Sent) : Outcome (Progress Nat) :=
  match s.reply with
  | .ok n => .ok (.moved n)
  | .error errno =>
    if errno.isTransient then .ok .wouldBlock else .error (.stream (.write errno))

/-- What the system has accepted. -/
def accepted (s : Sent) : Bytes :=
  match s.reply with
  | .ok n => s.data.take n
  | .error _ => []

/-- No more was accepted than was offered. -/
def Fits (s : Sent) : Prop := ∀ n, s.reply = .ok n → n ≤ s.data.length

/-- If it was refused, then for now. -/
def Passes (s : Sent) : Prop := ∀ errno, s.reply = .error errno → errno ∈ Errno.transient

theorem answer_transient (data : Bytes) {errno : Errno} (h : errno.isTransient = true) :
    answer ⟨data, .error errno⟩ = .ok .wouldBlock := if_pos h

theorem answer_final (data : Bytes) {errno : Errno} (h : ¬errno.isTransient = true) :
    answer ⟨data, .error errno⟩ = .error (.stream (.write errno)) := if_neg h

theorem failure?_answer_iff (s : Sent) (cause : Failure) :
    failure? s.answer = some cause ↔ ∃ errno, s.reply = .error errno ∧
      errno ∉ Errno.transient ∧ cause = .stream (.write errno) := by
  obtain ⟨data, reply⟩ := s
  cases reply with
  | ok n => simp [answer, failure?]
  | error errno =>
    by_cases transient : errno.isTransient = true
    · simp [answer_transient data transient, failure?, Errno.isTransient_iff.mp transient]
    · have final : errno ∉ Errno.transient := mt Errno.isTransient_iff.mpr transient
      simp [answer_final data transient, failure?, final, eq_comm (a := cause)]

theorem Passes.failure?_answer {s : Sent} (h : s.Passes) : failure? s.answer = none := by
  cases failed : failure? s.answer with
  | none => rfl
  | some cause =>
    obtain ⟨errno, refused, final, _⟩ := (s.failure?_answer_iff cause).mp failed
    exact absurd (h errno refused) final

theorem truthful {s : Sent} (fits : s.Fits) (before : Bytes) :
    Truthful before (before ++ s.accepted) s.data s.answer := by
  obtain ⟨data, reply⟩ := s
  cases reply with
  | ok n => exact ⟨fits n rfl, rfl⟩
  | error errno =>
    by_cases transient : errno.isTransient = true
    · rw [answer_transient data transient]
      exact List.append_nil before
    · rw [answer_final data transient]
      exact List.append_nil before

end Sent

def Event.sent? : Event → Option Sent
  | ⟨.send _ data, reply⟩ => some ⟨data, reply⟩
  | _ => none

def sends (events : List Event) : List Sent := events.filterMap Event.sent?

def acceptedIn (sent : List Sent) : Bytes := sent.flatMap Sent.accepted

theorem acceptedIn_append (sent rest : List Sent) :
    acceptedIn (sent ++ rest) = acceptedIn sent ++ acceptedIn rest := List.flatMap_append

/-! ### Prescribed answers -/

/-- A stream that expects the sends to come, and keeps what was accepted by those that came. What
is offered out of turn has to wait. -/
structure Prescribed where
  expected : List Sent
  accepted : Bytes

namespace Prescribed

def write (p : Prescribed) (data : Bytes) : Outcome (Progress Nat) × Prescribed :=
  match p.expected with
  | [] => (.ok .wouldBlock, p)
  | s :: rest =>
    if s.data = data then (s.answer, ⟨rest, p.accepted ++ s.accepted⟩) else (.ok .wouldBlock, p)

instance : Duplex Id Prescribed where
  read p _ := (.ok .wouldBlock, p)
  write := write
  flush p := (.ok (), p)
  wait p _ _ := (.ok .timedOut, p)
  setNonblocking p _ := (.ok (), p)

theorem write_expected (s : Sent) (rest : List Sent) (accepted : Bytes) :
    Duplex.write (m := Id) (⟨s :: rest, accepted⟩ : Prescribed) s.data =
      (s.answer, ⟨rest, accepted ++ s.accepted⟩) := if_pos rfl

/-- Nothing that is expected fails or says too much. -/
def Calm (p : Prescribed) : Prop := ∀ s ∈ p.expected, s.Fits ∧ s.Passes

theorem Calm.write {p : Prescribed} (calm : Calm p) (data : Bytes) :
    Calm (p.write data).2 ∧ Truthful p.accepted (p.write data).2.accepted data (p.write data).1 ∧
      failure? (p.write data).1 = none := by
  obtain ⟨expected, accepted⟩ := p
  cases expected with
  | nil => exact ⟨calm, rfl, rfl⟩
  | cons s rest =>
    by_cases turn : s.data = data
    · subst turn
      obtain ⟨fits, passes⟩ := calm s List.mem_cons_self
      have taken : Prescribed.write ⟨s :: rest, accepted⟩ s.data =
          (s.answer, ⟨rest, accepted ++ s.accepted⟩) := write_expected s rest accepted
      rw [taken]
      exact ⟨fun t ht => calm t (List.mem_cons_of_mem _ ht), Sent.truthful fits accepted,
        passes.failure?_answer⟩
    · have waits : Prescribed.write ⟨s :: rest, accepted⟩ data =
          (.ok .wouldBlock, ⟨s :: rest, accepted⟩) := if_neg turn
      rw [waits]
      exact ⟨calm, rfl, rfl⟩

theorem honest : Honest Calm accepted where
  sound data calm := (calm.write data).1
  truthful data calm := (calm.write data).2.1

theorem unfailing : Unfailing Calm := fun _ data calm => (calm.write data).2.2

end Prescribed

/-! ### A writer and its sends -/

theorem RawStream.recording_write {s : RawStream} {d : Descriptor} (opened : s.descriptor = some d)
    {data : Bytes} (filled : data ≠ []) {past : List Event}
    {post : Outcome (Progress Nat) × RawStream → List Event → Prop}
    (h : ∀ reply : Reply Nat,
      post ((Sent.mk data reply).answer, s) (past ++ [(Sent.mk data reply).event d])) :
    (Duplex.write (m := Program) s data).Meets recording past post := by
  apply meets_bind.mpr
  apply Attempt.meets_run_iff.mpr
  unfold RawStream.write openDescriptor
  rw [opened]
  show (if data.isEmpty then _ else _ : Attempt Failure (Progress Nat)).Meets _ _ _ _
  rw [if_neg (by simpa using filled)]
  apply Attempt.meets_bind.mpr
  apply Attempt.meets_always.mpr
  refine ⟨trivial, fun (reply : Reply Nat) _ => ?_⟩
  have said := h reply
  cases reply with
  | ok n => exact said
  | error errno =>
    show (if errno.isTransient then _ else _ : Attempt Failure (Progress Nat)).Meets _ _ _ _
    by_cases transient : errno.isTransient = true
    · rw [Sent.answer_transient data transient] at said
      rw [if_pos transient]
      exact said
    · rw [Sent.answer_final data transient] at said
      rw [if_neg transient]
      exact said

namespace Buffered

variable {S Q : Type} [Fifo Q]

/-- The same writer over another stream. -/
def onto {T : Type} (b : Buffered S Q) (t : T) : Buffered T Q := { b with inner := t }

theorem loaded_onto {T : Type} (b : Buffered S Q) (t : T) (c : Sending) :
    (b.onto t).loaded c = (b.loaded c).onto t := by
  cases c <;> rfl

/-- The drain of a writer that sends this, as the drain of a writer over a stream that expects it
before anything else. -/
def Follows (b : Buffered RawStream Q) (sent : List Sent)
    (r : Outcome Unit × Buffered RawStream Q) : Prop :=
  r.2.inner = b.inner ∧ ∀ later before, ∃ offers,
    Drains (b.onto (⟨sent ++ later, before⟩ : Prescribed)) offers r.1
      (r.2.onto ⟨later, before ++ acceptedIn sent⟩) ∧
    offers.map Offer.answer = sent.map Sent.answer

theorem follows_idle {b : Buffered RawStream Q} (empty : Fifo.front b.queue = []) :
    Follows b [] (.ok (), b) := by
  refine ⟨rfl, fun later before => ⟨[], ?_, rfl⟩⟩
  rw [acceptedIn, List.flatMap_nil, List.append_nil]
  exact .idle empty

section
variable {b : Buffered RawStream Q} {s : Sent} (queued : Fifo.front b.queue ≠ [])
  (offered : s.data = Fifo.front b.queue)
include queued offered

theorem follows_accepted {n : Nat} (moved : s.answer = .ok (.moved (n + 1))) {sent : List Sent}
    {r : Outcome Unit × Buffered RawStream Q}
    (rest : Follows { b with queue := Fifo.drop b.queue (n + 1) } sent r) :
    Follows b (s :: sent) r := by
  obtain ⟨same, rest⟩ := rest
  refine ⟨same, fun later before => ?_⟩
  -- what the rest expects is still to come when this send has been answered
  obtain ⟨offers, drained, answers⟩ := rest later (before ++ s.accepted)
  have answered := Prescribed.write_expected s (sent ++ later) before
  rw [moved, offered] at answered
  rw [List.append_assoc] at drained
  exact ⟨_, .accepted queued answered drained, by rw [List.map_cons, answers, List.map_cons, moved]⟩

theorem follows_refused (nothing : s.answer = .ok (.moved 0) ∨ s.answer = .ok .wouldBlock) :
    Follows b [s] (.ok (), { b with writeBlocked := true }) := by
  refine ⟨rfl, fun later before => ?_⟩
  have answered := Prescribed.write_expected s later before
  rw [offered, ← List.append_nil s.accepted] at answered
  exact ⟨_, .refused queued answered nothing, rfl⟩

theorem follows_failed {cause : Failure} (fatal : failure? s.answer = some cause) :
    Follows b [s] (.error cause, { b with queue := Fifo.clear b.queue }) := by
  refine ⟨rfl, fun later before => ?_⟩
  have answered := Prescribed.write_expected s later before
  rw [offered, ← List.append_nil s.accepted] at answered
  exact ⟨_, .failed queued answered fatal, rfl⟩

end

/-- Whatever the system answers, the drain of a writer over an open socket follows its sends. -/
theorem recording_drain {d : Descriptor} (b : Buffered RawStream Q)
    (opened : b.inner.descriptor = some d) (past : List Event) :
    (drain (m := Program) b).Meets recording past fun r events =>
      ∃ own, events = past ++ own ∧ Follows b (sends own) r := by
  -- by induction on what is queued, of which less is left after a send that moved something
  by_cases empty : Fifo.front b.queue = []
  · rw [drain, if_pos empty]
    exact ⟨[], (List.append_nil past).symm, follows_idle empty⟩
  · rw [drain, if_neg empty]
    apply meets_bind.mpr
    apply RawStream.recording_write opened empty
    intro reply
    rcases said : (Sent.mk (Fifo.front b.queue) reply).answer with cause | (n | n) | _ | _
    · have fatal := congrArg failure? said
      exact meets_bind.mpr ⟨trivial, fun _ _ => ⟨[_, _], List.append_assoc _ _ _,
        follows_failed empty rfl fatal⟩⟩
    · exact ⟨[_], rfl, follows_refused empty rfl (.inl said)⟩
    · apply (recording_drain { b with queue := Fifo.drop b.queue (n + 1) } opened _).mono
      rintro r _ ⟨own, rfl, follows⟩
      exact ⟨_ :: own, List.append_assoc _ _ _, follows_accepted empty rfl said follows⟩
    · exact ⟨[_], rfl, follows_refused empty rfl (.inr said)⟩
    · have fatal := congrArg failure? said
      exact meets_bind.mpr ⟨trivial, fun _ _ => ⟨[_, _], List.append_assoc _ _ _,
        follows_failed empty rfl fatal⟩⟩
termination_by Fifo.length b.queue
decreasing_by exact Fifo.length_drop_lt empty

/-- A sending is a drain of what it leaves to be drained. -/
theorem program_eq [Duplex Program S] (c : Sending) (b : Buffered S Q) :
    c.program b = (drain (m := Program) (b.loaded c) >>= fun r =>
      pure (r.1.map fun _ => c.receipt, r.2)) := by
  cases c with
  | write data =>
    show (drain (m := Program) (b.loaded (.write data)) >>= fun r => pure _) >>= _ = _
    rw [LawfulMonad.bind_assoc]
    congr 1
    funext ⟨result, after⟩
    cases result <;> rfl
  | flush => rfl

theorem recording_program {d : Descriptor} (b : Buffered RawStream Q)
    (opened : b.inner.descriptor = some d) (c : Sending) (past : List Event) :
    (c.program b).Meets recording past fun r events => ∃ own result, events = past ++ own ∧
      r.1 = result.map (fun _ => c.receipt) ∧ Follows (b.loaded c) (sends own) (result, r.2) := by
  rw [program_eq]
  apply meets_bind.mpr
  apply (recording_drain (b.loaded c) (by rwa [inner_loaded]) past).mono
  rintro ⟨result, after⟩ _ ⟨own, rfl, follows⟩
  exact ⟨own, result, rfl, rfl, follows⟩

/-- A sending over an open socket answers and leaves the writer as the same sending does over the
stream that expects its sends. -/
theorem perform_onto {d : Descriptor} {b after : Buffered RawStream Q}
    (opened : b.inner.descriptor = some d) {c : Sending} {events : List Event}
    {answer : Outcome (Option (Progress Nat))} (runs : Runs (c.program b) events (answer, after)) :
    after.inner = b.inner ∧ ∀ later before,
      let start := b.onto (⟨sends events ++ later, before⟩ : Prescribed)
      c.perform start = (answer, after.onto ⟨later, before ++ acceptedIn (sends events)⟩) ∧
      (start.offers c).map Offer.answer = (sends events).map Sent.answer := by
  obtain ⟨own, result, whole, rfl, same, follows⟩ :=
    meets_recording_iff.mp (recording_program b opened c []) events _ runs
  obtain rfl : events = own := whole
  refine ⟨by rw [same, inner_loaded], fun later before => ?_⟩
  obtain ⟨offers, drained, answers⟩ := follows later before
  rw [← loaded_onto] at drained
  obtain ⟨seen, performed⟩ := drained.sending
  exact ⟨performed, by rw [seen, answers]⟩

end Buffered
end StreamTransport
