import StreamTransport.Proofs.Stream.Epochs
import StreamTransport.Proofs.Stream.Sends

/-!
# Refusals of a socket

What a caller learns of the sends that are made for the calls. The system may refuse any
send for any reason. A refusal for now is absorbed: the call succeeds, and what was
submitted is accepted later or still queued. A refusal for good is always told, and never
as something to be tried again.
-/

set_option autoImplicit false

namespace StreamTransport

open Program

namespace Buffered

variable {Q : Type} [Fifo Q]

/-- A sending, what was asked of the system for it, and the answer. -/
structure Served where
  sending : Sending
  events : List Event
  answer : Outcome (Option (Progress Nat))

/-- Sendings on a writer, one after the other. -/
inductive History : Buffered RawStream Q → List Served → Buffered RawStream Q → Prop
  | nil (b : Buffered RawStream Q) : History b [] b
  | cons {b next after : Buffered RawStream Q} {v : Served} {calls : List Served}
      (runs : Runs (v.sending.program b) v.events (v.answer, next))
      (rest : History next calls after) : History b (v :: calls) after

/-- What was sent for the calls. -/
def sentFor (calls : List Served) : List Sent := calls.flatMap fun v => sends v.events

theorem sentFor_cons (v : Served) (calls : List Served) :
    sentFor (v :: calls) = sends v.events ++ sentFor calls := rfl

section
variable {d : Descriptor} {b after : Buffered RawStream Q} {calls : List Served}

/-- Every call of a history is a run on a writer over the same socket. -/
theorem History.exists_runs (history : History b calls after)
    (opened : b.inner.descriptor = some d) (v : Served) (hv : v ∈ calls) :
    ∃ b' next : Buffered RawStream Q, b'.inner.descriptor = some d ∧
      Runs (v.sending.program b') v.events (v.answer, next) := by
  induction history with
  | nil _ => cases hv
  | @cons b next after u calls runs rest ih =>
    obtain ⟨same, _⟩ := perform_onto opened runs
    rcases List.mem_cons.mp hv with rfl | later
    · exact ⟨b, next, opened, runs⟩
    · exact ih (by rwa [same]) later

/-- A history over an open socket is a run over a stream that expects all that is sent. -/
theorem History.run_onto (history : History b calls after) (opened : b.inner.descriptor = some d)
    (later : List Sent) (before : Bytes) :
    Sending.run (b.onto (⟨sentFor calls ++ later, before⟩ : Prescribed))
        (calls.map Served.sending) =
      after.onto ⟨later, before ++ acceptedIn (sentFor calls)⟩ := by
  induction history generalizing before with
  | nil b =>
    show b.onto _ = b.onto (⟨later, before ++ []⟩ : Prescribed)
    rw [List.append_nil]
    rfl
  | @cons b next after v calls runs rest ih =>
    obtain ⟨same, performed⟩ := perform_onto opened runs
    obtain ⟨here, _⟩ := performed (sentFor calls ++ later) before
    have there := ih (by rwa [same]) (before ++ acceptedIn (sends v.events))
    rw [sentFor_cons, List.append_assoc, List.map_cons, Sending.run, here, acceptedIn_append,
      ← List.append_assoc]
    exact there

theorem answered_by_refusals {v : Served} {next : Buffered RawStream Q}
    (opened : b.inner.descriptor = some d)
    (runs : Runs (v.sending.program b) v.events (v.answer, next)) :
    (∀ cause, v.answer = .error cause ↔ ∃ sent ∈ sends v.events, ∃ errno,
      sent.reply = .error errno ∧ errno ∉ Errno.transient ∧ cause = .stream (.write errno)) ∧
    ((∀ sent ∈ sends v.events, sent.Passes) → v.answer = .ok v.sending.receipt) := by
  obtain ⟨_, performed⟩ := perform_onto opened runs
  obtain ⟨here, answers⟩ := performed [] []
  have fails (cause : Failure) : v.answer = .error cause ↔
      ∃ sent ∈ sends v.events, failure? sent.answer = some cause := by
    have same :=
      perform_error_iff (b.onto (⟨sends v.events ++ [], []⟩ : Prescribed)) v.sending cause
    rw [here, answers] at same
    simpa using same
  constructor
  · intro cause
    simpa only [Sent.failure?_answer_iff] using fails cause
  · intro passes
    rcases perform_outcome (b.onto (⟨sends v.events ++ [], []⟩ : Prescribed)) v.sending with
      ⟨ok, _⟩ | ⟨cause, _, failed, _⟩
    · rw [here] at ok
      exact ok
    · rw [here] at failed
      obtain ⟨sent, hs, fatal⟩ := (fails cause).mp failed
      rw [(passes sent hs).failure?_answer] at fatal
      cases fatal

theorem accepted_of_calm {s : RawStream} (opened : s.descriptor = some d)
    (history : History (.new s) calls after)
    (calm : ∀ sent ∈ sentFor calls, sent.Fits ∧ sent.Passes) :
    acceptedIn (sentFor calls) ++ Fifo.bytes after.queue =
      Sending.submitted (calls.map Served.sending) := by
  have ran := history.run_onto opened [] []
  rw [List.append_nil] at ran
  have sound : Prescribed.Calm (new (Q := Q) (⟨sentFor calls, []⟩ : Prescribed)).inner := calm
  obtain ⟨sent, grown, whole⟩ := succeeding_run_conserves Prescribed.honest
    (calls.map Served.sending) sound
    (allSucceed_of_unfailing Prescribed.honest Prescribed.unfailing _ sound)
  rw [show Sending.run (new (Q := Q) (⟨sentFor calls, []⟩ : Prescribed)) _ = _ from ran]
    at grown whole
  have all : acceptedIn (sentFor calls) = sent := grown
  have start : Fifo.bytes (new (Q := Q) (⟨sentFor calls, []⟩ : Prescribed)).queue = [] :=
    Fifo.bytes_empty
  rw [start, List.nil_append] at whole
  rw [all]
  exact whole

end

/-- A call fails exactly if one of its sends is refused for good, and then with that refusal. As
long as none is, what the system accepted and then the queue are what was submitted. And through
any number of writers, or none, over an open or a closed socket, no read, write or flush fails in a
way that asks the caller to try again. -/
theorem refusals_for_now_absorbed {s : RawStream} {d : Descriptor} (opened : s.descriptor = some d)
    {calls : List Served} {after : Buffered RawStream Q} (history : History (.new s) calls after) :
    (∀ v ∈ calls,
      (∀ cause, v.answer = .error cause ↔ ∃ sent ∈ sends v.events, ∃ errno,
        sent.reply = .error errno ∧ errno ∉ Errno.transient ∧ cause = .stream (.write errno)) ∧
      ((∀ sent ∈ sends v.events, sent.Passes) → v.answer = .ok v.sending.receipt)) ∧
    ((∀ sent ∈ sentFor calls, sent.Fits ∧ sent.Passes) →
      acceptedIn (sentFor calls) ++ Fifo.bytes after.queue =
        Sending.submitted (calls.map Served.sending)) ∧
    ∀ (n : Nat) (t t' : Stack RawStream n) (events : List Event) (cause : Failure),
      (∃ size, Runs (Duplex.read t size) events (.error cause, t')) ∨
        (∃ c : Sending, Runs (c.program t) events (.error cause, t')) →
      cause.kind ≠ .wouldBlock ∧ cause.kind ≠ .interrupted := by
  refine ⟨fun v hv => ?_, fun calm => ?_, ?_⟩
  · obtain ⟨b, next, opened, runs⟩ := history.exists_runs opened v hv
    exact answered_by_refusals opened runs
  · exact accepted_of_calm opened history calm
  · rintro n t t' events cause (⟨size, runs⟩ | ⟨c, runs⟩)
    · exact final_of_runs ((Stack.decided RawStream.decided n).read t size []) runs
    · exact final_of_runs ((Stack.decided RawStream.decided n).program c t []) runs

/-- A socket that takes one byte of three, is then busy, is interrupted, and takes the rest. -/
theorem refusals_for_now_absorbed_busy :
    ∃ (calls : List Served) (after : Buffered RawStream),
      History (.new ⟨some 4, none, .unix, .unix⟩) calls after ∧
      calls.map Served.sending = [.write [1, 2, 3], .flush, .flush] ∧
      sentFor calls = [⟨[1, 2, 3], .ok 1⟩, ⟨[2, 3], .error .tryAgain⟩,
        ⟨[2, 3], .error .interrupted⟩, ⟨[2, 3], .ok 2⟩] ∧
      (∀ v ∈ calls, v.answer = .ok v.sending.receipt) ∧
      acceptedIn (sentFor calls) ++ after.queue.bytes = [1, 2, 3] := by
  let part : Sent := ⟨[1, 2, 3], .ok 1⟩
  let busy : Sent := ⟨[2, 3], .error .tryAgain⟩
  let again : Sent := ⟨[2, 3], .error .interrupted⟩
  let all : Sent := ⟨[2, 3], .ok 2⟩
  let start : Buffered RawStream := .new ⟨some 4, none, .unix, .unix⟩
  let rest : Buffered RawStream :=
    { start with queue := Fifo.drop (start.loaded (.write [1, 2, 3])).queue 1 }
  let blocked : Buffered RawStream := { rest with writeBlocked := true }
  let done : Buffered RawStream := { rest with queue := Fifo.drop rest.queue 2 }
  have drained : Runs (drain (m := Program) rest) [busy.event 4] (.ok (), blocked) := by
    rw [drain, if_neg (by decide)]
    exact .call _ (.done _)
  have wrote : Runs ((Sending.write [1, 2, 3]).program start) [part.event 4, busy.event 4]
      (.ok (some (.moved 3)), blocked) := by
    have first : Runs (drain (m := Program) (start.loaded (.write [1, 2, 3])))
        [part.event 4, busy.event 4] (.ok (), blocked) := by
      rw [drain, if_neg (by decide)]
      exact .call _ drained
    rw [program_eq]
    exact first.map rfl
  have waited : Runs (Sending.flush.program blocked) [again.event 4] (.ok none, blocked) := by
    have interrupted : Runs (drain (m := Program) rest) [again.event 4] (.ok (), blocked) := by
      rw [drain, if_neg (by decide)]
      exact .call _ (.done _)
    rw [program_eq]
    exact interrupted.map rfl
  have flushed : Runs (Sending.flush.program blocked) [all.event 4] (.ok none, done) := by
    have idle : Runs (drain (m := Program) done) [] (.ok (), done) := by
      rw [drain, if_pos (by decide)]
      exact .done _
    have last : Runs (drain (m := Program) rest) [all.event 4] (.ok (), done) := by
      rw [drain, if_neg (by decide)]
      exact .call _ idle
    rw [program_eq]
    exact last.map rfl
  have history : History start [⟨.write [1, 2, 3], [part.event 4, busy.event 4], _⟩,
      ⟨.flush, [again.event 4], _⟩, ⟨.flush, [all.event 4], _⟩] done :=
    .cons wrote (.cons waited (.cons flushed (.nil done)))
  have calm : ∀ sent ∈ [part, busy, again, all], sent.Fits ∧ sent.Passes := by
    simp [part, busy, again, all, Sent.Fits, Sent.Passes, Errno.transient]
  obtain ⟨answers, whole, _⟩ := refusals_for_now_absorbed rfl history
  refine ⟨_, done, history, rfl, rfl, fun v hv => ?_, whole calm⟩
  have among : ∀ sent ∈ sends v.events, sent ∈ sentFor _ := fun sent hs =>
    List.mem_flatMap.mpr ⟨v, hv, hs⟩
  exact (answers v hv).2 fun sent hs => (calm sent (among sent hs)).2

end Buffered
end StreamTransport
