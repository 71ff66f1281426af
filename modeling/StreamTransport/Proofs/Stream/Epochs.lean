import StreamTransport.Proofs.Stream.Conservation

/-!
# Failures cut a run into epochs

A stream that fails, or is at its end, ends the drain it is met in. The caller
gets the failure and the queue is emptied, so a failed sending begins anew. What
the stream takes in an epoch, from one failure to the next, is a first part of
what was submitted in that epoch.
-/

set_option autoImplicit false

namespace StreamTransport.Buffered

variable {S Q : Type} [Fifo Q]

theorem pending_eq_zero {b : Buffered S Q} (left : Fifo.bytes b.queue = []) : b.pending = 0 := by
  rw [pending_eq_length, left]
  rfl

/-- What is not among the earlier ones is the last. -/
theorem eq_last_of_not_mem {α : Type} {xs pre post : List α} {x y : α}
    (split : xs ++ [x] = pre ++ y :: post) (new : y ∉ xs) : post = [] ∧ y = x := by
  rcases List.eq_nil_or_concat post with rfl | ⟨post, z, rfl⟩
  · have last := (List.append_inj' split rfl).2
    exact ⟨rfl, (List.cons.inj last).1.symm⟩
  · rw [List.concat_eq_append, ← List.cons_append, ← List.append_assoc] at split
    have front := (List.append_inj' split rfl).1
    exact absurd (by simp [front]) new

/-- The only offer that fails is the last. -/
theorem fatal_of_breaks {offers earlier later : List (Offer S)} {o : Offer S}
    {cause cause' : Failure} (breaks : Breaks offers cause) (split : offers = earlier ++ o :: later)
    (fatal : failure? o.answer = some cause') : later = [] ∧ cause' = cause := by
  obtain ⟨before, last, whole, none, fatal'⟩ := breaks
  have late : o ∉ before := fun early => by
    rw [none o early] at fatal
    cases fatal
  obtain ⟨rfl, rfl⟩ := eq_last_of_not_mem (whole.symm.trans split) late
  exact ⟨rfl, Option.some.inj (fatal.symm.trans fatal')⟩

variable [Duplex Id S] {Sound : S → Prop} {taken : S → Bytes}

/-- A sending succeeds if none of its offers fails. Otherwise it fails as its last offer does, and
the writer is left with nothing queued. -/
theorem perform_outcome (b : Buffered S Q) (c : Sending) :
    ((c.perform b).1 = .ok c.receipt ∧ ∀ o ∈ b.offers c, failure? o.answer = none) ∨
    ∃ cause, Breaks (b.offers c) cause ∧ (c.perform b).1 = .error cause ∧
      Fifo.bytes (c.perform b).2.queue = [] ∧ (c.perform b).2.writeBlocked = false := by
  obtain ⟨result, drained, answered⟩ := drains_perform b c
  rcases drained.outcome with ⟨rfl, none⟩ | ⟨cause, breaks, rfl, left, flag⟩
  · exact .inl ⟨answered, none⟩
  · exact .inr ⟨cause, breaks, answered, left, by simpa using flag⟩

/-- A sending fails with what one of its offers fails with, or not at all. -/
theorem perform_error_iff (b : Buffered S Q) (c : Sending) (cause : Failure) :
    (c.perform b).1 = .error cause ↔ ∃ answer ∈ (b.offers c).map Offer.answer,
      failure? answer = some cause := by
  rcases perform_outcome b c with ⟨ok, none⟩ | ⟨cause', breaks, failed, _, _⟩
  · rw [ok]
    constructor
    · exact nofun
    · rintro ⟨_, h, fatal⟩
      obtain ⟨o, ho, rfl⟩ := List.mem_map.mp h
      rw [none o ho] at fatal
      cases fatal
  · rw [failed]
    constructor
    · rintro ⟨⟩
      obtain ⟨earlier, o, split, _, fatal⟩ := breaks
      exact ⟨o.answer, List.mem_map_of_mem (by simp [split]), fatal⟩
    · rintro ⟨_, h, fatal⟩
      obtain ⟨o, ho, rfl⟩ := List.mem_map.mp h
      obtain ⟨earlier, later, split⟩ := List.append_of_mem ho
      rw [(fatal_of_breaks breaks split fatal).2]

theorem queue_of_error {b : Buffered S Q} {c : Sending} {cause : Failure}
    (failed : (c.perform b).1 = .error cause) : Fifo.bytes (c.perform b).2.queue = [] := by
  rcases perform_outcome b c with ⟨ok, _⟩ | ⟨_, _, _, left, _⟩
  · rw [ok] at failed
    cases failed
  · exact left

theorem succeeding_run_conserves (honest : Honest Sound taken) (cs : List Sending)
    {b : Buffered S Q} (sound : Sound b.inner) (succeed : Sending.AllSucceed b cs) :
    Conserves taken b (Sending.run b cs) (Sending.submitted cs) := by
  induction cs generalizing b with
  | nil => exact .refl b
  | cons c cs ih =>
    obtain ⟨ok, succeed⟩ := succeed
    obtain ⟨kept, sent, grown, settled⟩ := perform_settles honest sound c
    rw [ok] at settled
    have conserved : Conserves taken b (c.perform b).2 c.bytes := ⟨sent, grown, settled⟩
    exact conserved.trans (ih kept succeed)

theorem run_sound (honest : Honest Sound taken) (cs : List Sending) {b : Buffered S Q}
    (sound : Sound b.inner) : Sound (Sending.run b cs).inner := by
  induction cs generalizing b with
  | nil => exact sound
  | cons c cs ih => exact ih (perform_settles honest sound c).1

theorem allSucceed_of_unfailing (honest : Honest Sound taken) (unfailing : Unfailing Sound)
    (cs : List Sending) {b : Buffered S Q} (sound : Sound b.inner) : Sending.AllSucceed b cs := by
  induction cs generalizing b with
  | nil => trivial
  | cons c cs ih =>
    exact ⟨perform_succeeds honest unfailing sound c, ih (perform_settles honest sound c).1⟩

theorem settles_prefix {α : Type} {queued sent left : Bytes} {outcome : Outcome α}
    (h : Settles queued sent left outcome) : sent <+: queued := by
  cases outcome with
  | ok _ => exact ⟨left, h⟩
  | error _ => exact h.1

/-- A run whose calls all succeed, but for the last perhaps, sends a first part of what it was
given. -/
theorem epoch_prefix (honest : Honest Sound taken) (cs : List Sending) {b : Buffered S Q}
    (sound : Sound b.inner) (succeed : Sending.AllSucceed b cs.dropLast) :
    ∃ sent, taken (Sending.run b cs).inner = taken b.inner ++ sent ∧
      sent <+: Fifo.bytes b.queue ++ Sending.submitted cs := by
  rcases List.eq_nil_or_concat cs with rfl | ⟨earlier, c, rfl⟩
  · exact ⟨[], by simp [Sending.run], List.nil_prefix⟩
  · rw [List.concat_eq_append] at succeed ⊢
    rw [List.dropLast_concat] at succeed
    obtain ⟨sent, grown, whole⟩ := succeeding_run_conserves honest earlier sound succeed
    obtain ⟨_, sent', grown', settled⟩ := perform_settles honest
      (run_sound honest earlier sound) c
    obtain ⟨rest, part⟩ := settles_prefix settled
    refine ⟨sent ++ sent', ?_, rest, ?_⟩
    · rw [Sending.run_concat, grown', grown, List.append_assoc]
    · rw [List.append_assoc, part, ← List.append_assoc, whole, Sending.submitted_concat,
        List.append_assoc]

/-- Whatever fails, what is sent later is found in order among what was queued and is submitted
later. -/
theorem run_sublist (honest : Honest Sound taken) (cs : List Sending) {b : Buffered S Q}
    (sound : Sound b.inner) :
    ∃ sent, taken (Sending.run b cs).inner = taken b.inner ++ sent ∧
      (sent ++ Fifo.bytes (Sending.run b cs).queue).Sublist
        (Fifo.bytes b.queue ++ Sending.submitted cs) := by
  induction cs generalizing b with
  | nil => exact ⟨[], by simp [Sending.run], by simp [Sending.run]⟩
  | cons c cs ih =>
    obtain ⟨kept, sent, grown, settled⟩ := perform_settles honest sound c
    obtain ⟨sent', grown', later⟩ := ih kept
    have now : (sent ++ Fifo.bytes (c.perform b).2.queue).Sublist
        (Fifo.bytes b.queue ++ c.bytes) := by
      cases outcome : (c.perform b).1 with
      | ok _ =>
        rw [outcome] at settled
        exact settled ▸ List.Sublist.refl _
      | error _ =>
        rw [outcome] at settled
        rw [settled.2, List.append_nil]
        exact settled.1.sublist
    refine ⟨sent ++ sent', ?_, ?_⟩
    · rw [Sending.run, grown', grown, List.append_assoc]
    · rw [Sending.run, List.append_assoc, Sending.submitted_cons, ← List.append_assoc _ c.bytes]
      refine (later.append_left sent).trans ?_
      rw [← List.append_assoc]
      exact now.append_right _

/-- The last call of the run fails. -/
def EndsFailing (b : Buffered S Q) (cs : List Sending) : Prop :=
  ∃ earlier c cause, cs = earlier ++ [c] ∧ (c.perform (Sending.run b earlier)).1 = .error cause

theorem EndsFailing.queue {b : Buffered S Q} {cs : List Sending} (h : EndsFailing b cs) :
    Fifo.bytes (Sending.run b cs).queue = [] := by
  obtain ⟨earlier, c, cause, rfl, failed⟩ := h
  rw [Sending.run_concat]
  exact queue_of_error failed

/-- The failure of the inner stream is that of the call, is met by the last offer, and empties the
queue. In an epoch, which begins anew after a failing call, the stream takes a first part of what
is submitted in it, and of what was submitted before a failure it takes nothing later. -/
theorem failures_cut_epochs (honest : Honest Sound taken) {s : S} (sound : Sound s) :
    (∀ (cs : List Sending) (c : Sending),
      let b : Buffered S Q := Sending.run (.new s) cs
      ((∀ o ∈ b.offers c, failure? o.answer = none) → (c.perform b).1 = .ok c.receipt) ∧
      ∀ earlier o later cause, b.offers c = earlier ++ o :: later →
        failure? o.answer = some cause → (c.perform b).1 = .error cause ∧
          (o.answer = .ok .endOfStream → cause.kind = .connectionReset) ∧ later = [] ∧
          (c.perform b).2.pending = 0 ∧ (c.perform b).2.writeBlocked = false) ∧
    (∀ before epoch : List Sending,
      let start : Buffered S Q := Sending.run (.new s) before
      (before = [] ∨ EndsFailing (Q := Q) (.new s) before) →
      Sending.AllSucceed start epoch.dropLast →
      ∃ sent, taken (Sending.run start epoch).inner = taken start.inner ++ sent ∧
        sent <+: Sending.submitted epoch) ∧
    ∀ before later : List Sending,
      let start : Buffered S Q := Sending.run (.new s) before
      EndsFailing (Q := Q) (.new s) before →
      ∃ sent, taken (Sending.run start later).inner = taken start.inner ++ sent ∧
        sent.Sublist (Sending.submitted later) := by
  have empty : Fifo.bytes (new (Q := Q) s).queue = [] := Fifo.bytes_empty
  have kept (cs : List Sending) : Sound (Sending.run (new (Q := Q) s) cs).inner :=
    run_sound honest cs sound
  refine ⟨?_, ?_, ?_⟩
  · intro cs c b
    rcases perform_outcome b c with ⟨ok, none⟩ | ⟨cause, breaks, failed, left, flag⟩
    · refine ⟨fun _ => ok, fun earlier o later cause split fatal => ?_⟩
      rw [none o (by simp [split])] at fatal
      cases fatal
    · refine ⟨fun never => ?_, fun earlier o later cause' split fatal => ?_⟩
      · obtain ⟨_, o, last, _, fatal⟩ := breaks
        rw [never o (by simp [last])] at fatal
        cases fatal
      · obtain ⟨rfl, rfl⟩ := fatal_of_breaks breaks split fatal
        refine ⟨failed, fun ended => ?_, rfl, pending_eq_zero left, flag⟩
        rw [ended] at fatal
        cases fatal
        rfl
  · intro before epoch start fresh succeed
    have queue : Fifo.bytes start.queue = [] := by
      rcases fresh with rfl | failing
      · exact empty
      · exact failing.queue
    obtain ⟨sent, grown, part⟩ := epoch_prefix honest epoch (kept before) succeed
    rw [queue, List.nil_append] at part
    exact ⟨sent, grown, part⟩
  · intro before later start failing
    obtain ⟨sent, grown, part⟩ := run_sublist honest later (kept before)
    rw [failing.queue, List.nil_append] at part
    exact ⟨sent, grown, (List.sublist_append_left _ _).trans part⟩

/-- A stream that takes one byte of two and then breaks. -/
theorem failures_cut_epochs_broken :
    let s := Scripted.new [.accept 1, .fail .brokenPipe] .all []
    let start : Buffered Scripted := Sending.run (.new s) [.write [1, 2]]
    Honest (Scripted.Within Scripted.Candid) Scripted.taken ∧
    Scripted.Within Scripted.Candid s ∧
    EndsFailing (Q := ByteQueue) (.new s) [.write [1, 2]] ∧
    ∃ sent, (Sending.run start [.write [3]]).inner.taken = start.inner.taken ++ sent ∧
      sent <+: [3] := by
  intro s start
  have sound : Scripted.Within Scripted.Candid s :=
    ⟨by simp [s, Scripted.new, Scripted.Candid], by simp [s, Scripted.new]⟩
  have failing : EndsFailing (Q := ByteQueue) (.new s) [.write [1, 2]] := by
    refine ⟨[], .write [1, 2], .stream (.write .brokenPipe), rfl, ?_⟩
    rw [Sending.run, perform_eq, (Drains.accepted (by decide) rfl
      (Drains.failed (by decide) rfl rfl)).drain_eq]
    rfl
  refine ⟨Scripted.candid_honest, sound, failing, ?_⟩
  exact (failures_cut_epochs Scripted.candid_honest sound).2.1 [.write [1, 2]] [.write [3]]
    (.inr failing) trivial

end StreamTransport.Buffered
