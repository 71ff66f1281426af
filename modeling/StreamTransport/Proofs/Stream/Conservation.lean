import Mathlib.Data.List.Chain
import StreamTransport.Proofs.Stream.Drain

/-!
# Nothing is lost, repeated or reordered

Over an honest stream everything submitted is either taken or still queued, in
the order of submission, and every offer starts where the taken bytes end. The
queue is known by its laws alone, so none of this depends on where its chunks
are cut.
-/

set_option autoImplicit false

namespace StreamTransport

/-- What was sent of a queue, and what was left of it. -/
def Settles {α : Type} (queued sent left : Bytes) : Outcome α → Prop
  | .ok _ => sent ++ left = queued
  | .error _ => sent <+: queued ∧ left = []

/-- After a first part was sent, the rest may be settled on its own. -/
theorem Settles.append {α : Type} {queued sent left : Bytes} {outcome : Outcome α} {n : Nat}
    (h : Settles (queued.drop n) sent left outcome) :
    Settles queued (queued.take n ++ sent) left outcome := by
  cases outcome with
  | ok _ =>
    change _ = _ at h ⊢
    rw [List.append_assoc, h, List.take_append_drop]
  | error cause =>
    obtain ⟨⟨rest, whole⟩, left⟩ := h
    refine ⟨⟨rest, ?_⟩, left⟩
    rw [List.append_assoc, whole, List.take_append_drop]

namespace Buffered

variable {S Q : Type} [Fifo Q] {taken : S → Bytes}

theorem front_take (b : Buffered S Q) {n : Nat} (h : n ≤ (Fifo.front b.queue).length) :
    (Fifo.front b.queue).take n = (Fifo.bytes b.queue).take n := by
  rw [Fifo.bytes, List.take_append_of_le_length h]

/-- Of what was queued and of `more`, the stream has taken the first part and the rest is queued. -/
def Conserves (taken : S → Bytes) (b after : Buffered S Q) (more : Bytes) : Prop :=
  ∃ sent, taken after.inner = taken b.inner ++ sent ∧
    sent ++ Fifo.bytes after.queue = Fifo.bytes b.queue ++ more

namespace Conserves

variable {b next after : Buffered S Q} {more later : Bytes}

theorem refl (b : Buffered S Q) : Conserves taken b b [] := ⟨[], by simp, by simp⟩

theorem trans (first : Conserves taken b next more) (second : Conserves taken next after later) :
    Conserves taken b after (more ++ later) := by
  obtain ⟨sent, grown, whole⟩ := first
  obtain ⟨sent', grown', whole'⟩ := second
  refine ⟨sent ++ sent', ?_, ?_⟩
  · rw [grown', grown, List.append_assoc]
  · rw [List.append_assoc, whole', ← List.append_assoc, whole, List.append_assoc]

end Conserves

variable [Duplex Id S] {Sound : S → Prop}

namespace Drains

variable {b after : Buffered S Q} {offers : List (Offer S)} {result : Outcome Unit}

theorem settles (honest : Honest Sound taken) (h : Drains b offers result after)
    (sound : Sound b.inner) :
    Sound after.inner ∧ ∃ sent, taken after.inner = taken b.inner ++ sent ∧
      Settles (Fifo.bytes b.queue) sent (Fifo.bytes after.queue) result := by
  induction h with
  | idle _ => exact ⟨sound, [], by simp, by simp [Settles]⟩
  | @accepted b after inner n offers result _ answered _ ih =>
    obtain ⟨kept, fits, took⟩ := honest.answered sound answered
    rw [front_take b fits] at took
    obtain ⟨sound', sent, grown, settled⟩ := ih kept
    rw [Fifo.bytes_drop] at settled
    refine ⟨sound', (Fifo.bytes b.queue).take (n + 1) ++ sent, ?_, settled.append⟩
    rw [grown, took, List.append_assoc]
  | refused _ answered nothing =>
    obtain ⟨kept, told⟩ := honest.answered sound answered
    exact ⟨kept, [], by simp [told.eq_of_refused nothing], by simp [Settles]⟩
  | failed _ answered fatal =>
    obtain ⟨kept, told⟩ := honest.answered sound answered
    exact ⟨kept, [], by simp [told.eq_of_failure fatal], by simp [Settles]⟩

/-- Every offer is a part of the queue that starts where the taken bytes end. -/
theorem resumes (honest : Honest Sound taken) (h : Drains b offers result after)
    (sound : Sound b.inner) (o : Offer S) (ho : o ∈ offers) :
    o.data ≠ [] ∧ ∃ earlier later, taken o.before = taken b.inner ++ earlier ∧
      earlier ++ o.data ++ later = Fifo.bytes b.queue := by
  -- the first offer of any drain is the first chunk of the queue
  have first (b : Buffered S Q) : ∃ earlier later, taken b.inner = taken b.inner ++ earlier ∧
      earlier ++ Fifo.front b.queue ++ later = Fifo.bytes b.queue :=
    ⟨[], Fifo.back b.queue, by simp, by simp [Fifo.bytes]⟩
  induction h with
  | idle _ => simp at ho
  | @accepted b after inner n offers result queued answered _ ih =>
    rcases List.mem_cons.mp ho with rfl | later
    · exact ⟨queued, first b⟩
    · obtain ⟨kept, fits, took⟩ := honest.answered sound answered
      obtain ⟨some, earlier, later, grown, whole⟩ := ih kept later
      rw [Fifo.bytes_drop] at whole
      refine ⟨some, (Fifo.bytes b.queue).take (n + 1) ++ earlier, later, ?_, ?_⟩
      · rw [grown, took, front_take b fits, List.append_assoc]
      · rw [List.append_assoc, List.append_assoc, ← List.append_assoc earlier, whole,
          List.take_append_drop]
  | refused queued _ _ =>
    obtain rfl := List.mem_singleton.mp ho
    exact ⟨queued, first _⟩
  | failed queued _ _ =>
    obtain rfl := List.mem_singleton.mp ho
    exact ⟨queued, first _⟩

theorem before_head (h : Drains b offers result after) (o : Offer S) (ho : o ∈ offers.head?) :
    o.before = b.inner := by
  cases h with
  | idle _ => cases ho
  | accepted _ _ _ => cases ho; rfl
  | refused _ _ _ => cases ho; rfl
  | failed _ _ _ => cases ho; rfl

/-- Between two offers of a drain the stream takes what it says it takes of the first. -/
theorem continues (honest : Honest Sound taken) (h : Drains b offers result after)
    (sound : Sound b.inner) :
    offers.IsChain fun o next => ∃ n, o.answer = .ok (.moved n) ∧
      taken next.before = taken o.before ++ o.data.take n := by
  induction h with
  | idle _ => exact .nil
  | @accepted b after inner n offers result _ answered rest ih =>
    obtain ⟨kept, _, took⟩ := honest.answered sound answered
    refine (ih kept).cons fun next hn => ⟨n + 1, rfl, ?_⟩
    rw [rest.before_head next hn, took]
  | refused _ _ _ => exact .singleton _
  | failed _ _ _ => exact .singleton _

theorem result_eq_ok (honest : Honest Sound taken) (unfailing : Unfailing Sound)
    (h : Drains b offers result after) (sound : Sound b.inner) : result = .ok () := by
  induction h with
  | idle _ => rfl
  | accepted _ answered _ ih => exact ih (honest.answered sound answered).1
  | @refused _ _ _ _ _ _ => rfl
  | @failed b _ _ _ _ answered fatal =>
    have none := unfailing b.inner (Fifo.front b.queue) sound
    rw [answered, fatal] at none
    cases none

end Drains

theorem perform_settles (honest : Honest Sound taken) {b : Buffered S Q} (sound : Sound b.inner)
    (c : Sending) :
    Sound (c.perform b).2.inner ∧ ∃ sent, taken (c.perform b).2.inner = taken b.inner ++ sent ∧
      Settles (Fifo.bytes b.queue ++ c.bytes) sent (Fifo.bytes (c.perform b).2.queue)
        (c.perform b).1 := by
  obtain ⟨result, drained, answered⟩ := drains_perform b c
  obtain ⟨kept, sent, grown, settled⟩ := drained.settles honest (by simpa using sound)
  rw [inner_loaded] at grown
  rw [bytes_loaded] at settled
  refine ⟨kept, sent, grown, ?_⟩
  rw [answered]
  cases result <;> exact settled

theorem perform_succeeds (honest : Honest Sound taken) (unfailing : Unfailing Sound)
    {b : Buffered S Q} (sound : Sound b.inner) (c : Sending) : (c.perform b).1 = .ok c.receipt := by
  obtain ⟨result, drained, answered⟩ := drains_perform b c
  rw [answered, drained.result_eq_ok honest unfailing (by simpa using sound)]
  rfl

theorem request_conserves (honest : Honest Sound taken) (quiet : Quiet Sound taken)
    (unfailing : Unfailing Sound) {b : Buffered S Q} (sound : Sound b.inner) (r : Request) :
    Sound (r.after b).inner ∧ Conserves taken b (r.after b) r.bytes := by
  -- what reaches only the inner stream sends nothing and leaves the queue alone
  have passed {inner : S} (h : Sound inner ∧ taken inner = taken b.inner) :
      Sound inner ∧ Conserves taken b { b with inner } [] :=
    ⟨h.1, [], by simp [h.2], by simp⟩
  cases r with
  | send c =>
    obtain ⟨kept, sent, grown, settled⟩ := perform_settles honest sound c
    rw [perform_succeeds honest unfailing sound c] at settled
    exact ⟨kept, sent, grown, settled⟩
  | read size => exact passed (quiet.read size sound)
  | wait direction timeout => exact passed (quiet.wait direction timeout sound)
  | setNonblocking on => exact passed (quiet.setNonblocking on sound)

theorem run_conserves (honest : Honest Sound taken) (quiet : Quiet Sound taken)
    (unfailing : Unfailing Sound) (rs : List Request) {b : Buffered S Q} (sound : Sound b.inner) :
    Sound (Request.run b rs).inner ∧
      Conserves taken b (Request.run b rs) (Request.submitted rs) := by
  induction rs generalizing b with
  | nil => exact ⟨sound, .refl b⟩
  | cons r rs ih =>
    obtain ⟨kept, conserved⟩ := request_conserves honest quiet unfailing sound r
    obtain ⟨kept', rest⟩ := ih kept
    exact ⟨kept', conserved.trans rest⟩

/-- After any run of requests on a new writer, what the stream has taken and then the queue are
what was submitted, and a write takes everything. All that a write or a flush offers starts where
the taken bytes end. -/
theorem submitted_in_order (honest : Honest Sound taken) (quiet : Quiet Sound taken)
    (unfailing : Unfailing Sound) {s : S} (sound : Sound s) (rs : List Request) :
    let b : Buffered S Q := Request.run (.new s) rs
    (∃ sent, taken b.inner = taken s ++ sent ∧
      sent ++ Fifo.bytes b.queue = Request.submitted rs ∧
      b.pending = (Request.submitted rs).length - sent.length) ∧
    (∀ data, (write (m := Id) b data).1 = .ok (.moved data.length)) ∧
    ∀ c : Sending, (∀ o ∈ b.offers c, o.data ≠ [] ∧
        ∃ earlier later, taken o.before = taken s ++ earlier ∧
          earlier ++ o.data ++ later = Request.submitted (rs ++ [.send c])) ∧
      (b.offers c).IsChain fun o next => ∃ n, o.answer = .ok (.moved n) ∧
        taken next.before = taken o.before ++ o.data.take n := by
  intro b
  obtain ⟨kept, sent, grown, whole⟩ := run_conserves (Q := Q) honest quiet unfailing rs
    (b := .new s) sound
  have start : Fifo.bytes (new (Q := Q) s).queue = [] := Fifo.bytes_empty
  rw [start, List.nil_append] at whole
  refine ⟨⟨sent, grown, whole, ?_⟩, ?_, ?_⟩
  · have lengths : sent.length + b.pending = (Request.submitted rs).length := by
      rw [← whole, List.length_append, Fifo.length_bytes]
      rfl
    omega
  · intro data
    exact Sending.perform_write_eq_ok.mp (perform_succeeds honest unfailing kept (.write data))
  · intro c
    obtain ⟨result, drained, _⟩ := drains_perform b c
    refine ⟨fun o ho => ?_, drained.continues honest (by simpa using kept)⟩
    obtain ⟨some, earlier, later, resumed, offered⟩ :=
      drained.resumes honest (by simpa using kept) o ho
    rw [inner_loaded] at resumed
    rw [bytes_loaded] at offered
    refine ⟨some, sent ++ earlier, later, ?_, ?_⟩
    · rw [resumed, grown, List.append_assoc]
      rfl
    · rw [Request.submitted_append, Request.submitted_send, ← whole, List.append_assoc sent,
        List.append_assoc sent, offered, List.append_assoc]

/-- A stream that takes three bytes, then waits, then takes the rest. -/
theorem submitted_in_order_paused :
    let s := Scripted.new [.accept 3, .block] .all []
    let rs : List Request := [.send (.write [1, 2, 3, 4, 5]), .read 2, .send (.write [6])]
    let b : Buffered Scripted := Request.run (.new s) rs
    Honest (Scripted.Within Scripted.Willing) Scripted.taken ∧
    Quiet (Scripted.Within Scripted.Willing) Scripted.taken ∧
    Unfailing (Scripted.Within Scripted.Willing) ∧ Scripted.Within Scripted.Willing s ∧
    b.inner.taken ++ b.queue.bytes = [1, 2, 3, 4, 5, 6] := by
  intro s rs b
  have sound : Scripted.Within Scripted.Willing s :=
    ⟨by simp [s, Scripted.new, Scripted.Willing.accept, Scripted.Willing.block],
      by simp [s, Scripted.new]⟩
  obtain ⟨⟨sent, grown, whole, _⟩, _⟩ := submitted_in_order (Q := ByteQueue)
    Scripted.willing_honest Scripted.quiet Scripted.willing_unfailing sound rs
  have taken : b.inner.taken = sent := grown
  exact ⟨Scripted.willing_honest, Scripted.quiet, Scripted.willing_unfailing, sound,
    by rw [taken]; exact whole⟩

end Buffered
end StreamTransport
