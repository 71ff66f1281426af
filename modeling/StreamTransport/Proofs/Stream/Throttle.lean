import StreamTransport.Proofs.Stream.Offers

/-!
# Flushing a throttled stream

A throttled stream has a budget for each write, from a list that is gone through
again and again. A budget of nothing makes the caller wait.

A flush may meet such a budget at once and send nothing. But then it has moved on
in the list, so with any budget that is not nothing the queue gets shorter at
least once in as many flushes as the list is long.
-/

set_option autoImplicit false

namespace StreamTransport

/-- The most that the write at a position takes. -/
def allowance (budgets : List Nat) (position : Nat) : Nat :=
  budgets.getD (position % budgets.length) 0

/-- From any position on a budget that is not nothing comes within the length of the list. -/
theorem exists_allowance_pos {budgets : List Nat} (some : ∃ budget ∈ budgets, 0 < budget)
    (position : Nat) : ∃ gap < budgets.length, 0 < allowance budgets (position + gap) := by
  obtain ⟨budget, mem, positive⟩ := some
  obtain ⟨index, inside, rfl⟩ := List.mem_iff_getElem.mp mem
  have reached (gap : Nat) (h : (position + gap) % budgets.length = index) :
      0 < allowance budgets (position + gap) := by
    simpa [allowance, h, inside] using positive
  have below := Nat.mod_lt position (Nat.zero_lt_of_lt inside)
  have whole := Nat.div_add_mod position budgets.length
  -- the budget is met in this round of the list or in the next
  by_cases ahead : position % budgets.length ≤ index
  · refine ⟨index - position % budgets.length, by omega, reached _ ?_⟩
    have sum : position + (index - position % budgets.length) =
        index + budgets.length * (position / budgets.length) := by omega
    rw [sum, Nat.add_mul_mod_self_left, Nat.mod_eq_of_lt inside]
  · refine ⟨index + budgets.length - position % budgets.length, by omega, reached _ ?_⟩
    have sum : position + (index + budgets.length - position % budgets.length) =
        index + budgets.length * (position / budgets.length + 1) := by
      rw [Nat.mul_succ]
      omega
    rw [sum, Nat.add_mul_mod_self_left, Nat.mod_eq_of_lt inside]

section
variable {S : Type} [Duplex Id S]

structure Throttled (budgets : List Nat) (Sound : S → Prop) (taken : S → Bytes)
    (position : S → Nat) : Prop where
  answer {s : S} (data : Bytes) : Sound s → (Duplex.write (m := Id) s data).1 =
    if allowance budgets (position s) = 0 then .ok .wouldBlock
    else .ok (.moved (min (allowance budgets (position s)) data.length))
  sound_write {s : S} (data : Bytes) : Sound s → Sound (Duplex.write (m := Id) s data).2
  taken_write {s : S} (data : Bytes) : Sound s → taken (Duplex.write (m := Id) s data).2 =
    taken s ++ data.take (allowance budgets (position s))
  position_write {s : S} (data : Bytes) : Sound s →
    position (Duplex.write (m := Id) s data).2 = position s + 1

namespace Throttled

variable {budgets : List Nat} {Sound : S → Prop} {taken : S → Bytes} {position : S → Nat}

theorem honest (throttled : Throttled budgets Sound taken position) : Honest Sound taken where
  sound data sound := throttled.sound_write data sound
  truthful {s} data sound := by
    rw [throttled.answer data sound, throttled.taken_write data sound]
    by_cases blocked : allowance budgets (position s) = 0
    · simp [blocked, Truthful]
    · rw [if_neg blocked]
      exact ⟨Nat.min_le_right _ _, by rw [← List.take_eq_take_min]⟩

theorem unfailing (throttled : Throttled budgets Sound taken position) :
    Unfailing (S := S) Sound := by
  intro s data sound
  rw [throttled.answer data sound]
  split <;> rfl

end Throttled

end

namespace Scripted

/-- How many writes the rule has ruled on. -/
def position (s : Scripted) : Nat :=
  match s.rule with
  | .cycle _ position => position
  | _ => 0

/-- Only the budgets decide what becomes of a write. -/
def OnBudgets (budgets : List Nat) (s : Scripted) : Prop :=
  s.paused = false ∧ s.script = [] ∧ s.rule = .cycle budgets s.position

theorem write_onBudgets {budgets : List Nat} {s : Scripted} (h : OnBudgets budgets s)
    (data : Bytes) :
    s.write data =
      let limit := allowance budgets s.position
      let verdict := if limit = 0 then .block else .accept limit
      ((apply data verdict).2, { s with
        rule := .cycle budgets (s.position + 1)
        pieces := (apply data verdict).1 :: s.pieces
        history := .write data (apply data verdict).2 :: s.history }) := by
  obtain ⟨running, unscripted, rule⟩ := h
  rw [write_ruled running unscripted, rule]
  rfl

theorem throttled (budgets : List Nat) : Throttled budgets (OnBudgets budgets) taken position where
  answer {s} data sound := by
    change (s.write data).1 = _
    rw [write_onBudgets sound]
    by_cases blocked : allowance budgets s.position = 0
    · simp [blocked, apply]
    · simp [blocked, apply]
  sound_write {s} data sound := by
    change OnBudgets budgets (s.write data).2
    rw [write_onBudgets sound]
    exact ⟨sound.1, sound.2.1, rfl⟩
  taken_write {s} data sound := by
    change (s.write data).2.taken = _
    rw [write_onBudgets sound]
    by_cases blocked : allowance budgets s.position = 0
    · simp [blocked, apply, taken]
    · simp [blocked, apply, taken]
  position_write {s} data sound := by
    change (s.write data).2.position = _
    rw [write_onBudgets sound]
    rfl

end Scripted

namespace Buffered

variable {S Q : Type} [Fifo Q] [Duplex Id S] {budgets : List Nat} {Sound : S → Prop}
  {taken : S → Bytes} {position : S → Nat} {b : Buffered S Q}

/-- A drain of a writer with something queued shortens the queue, or meets a budget of nothing at
once. -/
theorem Drains.shortens (throttled : Throttled budgets Sound taken position) {after : Buffered S Q}
    {offers : List (Offer S)} {result : Outcome Unit} (h : Drains b offers result after)
    (sound : Sound b.inner) (filled : Fifo.front b.queue ≠ []) :
    after.pending < b.pending ∨ allowance budgets (position b.inner) = 0 ∧
      position after.inner = position b.inner + 1 ∧ after.pending = b.pending := by
  have told := throttled.answer (Fifo.front b.queue) sound
  cases h with
  | idle empty => exact absurd empty filled
  | accepted queued answered rest =>
    exact .inl (Nat.lt_of_le_of_lt rest.pending_le (Fifo.length_drop_lt queued))
  | @refused _ inner answer queued answered nothing =>
    have moved := throttled.position_write (Fifo.front b.queue) sound
    rw [answered] at told moved
    by_cases blocked : allowance budgets (position b.inner) = 0
    · exact .inr ⟨blocked, moved, rfl⟩
    · have := List.length_pos_iff.mpr queued
      rw [if_neg blocked] at told
      subst told
      simp only [Except.ok.injEq, Progress.moved.injEq, reduceCtorEq, or_false] at nothing
      omega
  | failed queued answered fatal =>
    have none := throttled.unfailing b.inner (Fifo.front b.queue) sound
    rw [answered, fatal] at none
    cases none

theorem flush_shortens (throttled : Throttled budgets Sound taken position) (sound : Sound b.inner)
    (filled : b.pending ≠ 0) :
    let after := (Sending.flush.perform b).2
    after.pending < b.pending ∨ allowance budgets (position b.inner) = 0 ∧
      position after.inner = position b.inner + 1 ∧ after.pending = b.pending := by
  obtain ⟨_, drained, _⟩ := drains_perform b .flush
  refine drained.shortens throttled sound fun empty => filled ?_
  exact pending_eq_zero ((Fifo.front_eq_nil_iff _).mp empty)

/-- So many flushes are enough for a queue of a length, where `gap` budgets of nothing come before
another one. Each byte but the last may cost a whole round of the list. -/
def patience (budgets : List Nat) (gap : Nat) : Nat → Nat
  | 0 => 0
  | length + 1 => budgets.length * length + gap + 1

theorem patience_le {gap : Nat} (inside : gap < budgets.length) (length : Nat) :
    patience budgets gap length ≤ budgets.length * length := by
  cases length with
  | zero => exact Nat.zero_le _
  | succ length =>
    rw [patience, Nat.mul_succ]
    omega

/-- A flush takes up patience, if there is any left. -/
theorem patience_flush (throttled : Throttled budgets Sound taken position)
    (some : ∃ budget ∈ budgets, 0 < budget) (sound : Sound b.inner) (filled : b.pending ≠ 0)
    {gap : Nat} (reached : 0 < allowance budgets (position b.inner + gap)) :
    let after := (Sending.flush.perform b).2
    ∃ gap', 0 < allowance budgets (position after.inner + gap') ∧
      patience budgets gap' after.pending < patience budgets gap b.pending := by
  intro after
  obtain ⟨length, more⟩ := Nat.exists_eq_succ_of_ne_zero filled
  rcases flush_shortens throttled sound filled with shorter | ⟨blocked, moved, same⟩
  · obtain ⟨gap', inside, reached'⟩ := exists_allowance_pos some (position after.inner)
    have shorter : after.pending < b.pending := shorter
    refine ⟨gap', reached', ?_⟩
    calc patience budgets gap' after.pending
        ≤ budgets.length * after.pending := patience_le inside _
      _ ≤ budgets.length * length := Nat.mul_le_mul_left _ (by omega)
      _ < patience budgets gap b.pending := by
        rw [more, patience]
        omega
  · cases gap with
    | zero => exact absurd blocked (by simpa using reached.ne')
    | succ gap =>
      refine ⟨gap, ?_, ?_⟩
      · rw [moved, Nat.add_assoc, Nat.add_comm 1]
        exact reached
      · rw [same, more, patience, patience]
        omega

theorem pending_flush_of_empty (empty : b.pending = 0) :
    (Sending.flush.perform b).2.pending = 0 := by
  obtain ⟨_, drained, _⟩ := drains_perform b .flush
  exact Nat.le_zero.mp (drained.pending_le.trans empty.le)

/-- Flushing until patience is at an end leaves nothing pending. -/
theorem pending_flushes (throttled : Throttled budgets Sound taken position)
    (some : ∃ budget ∈ budgets, 0 < budget) {k gap : Nat} (sound : Sound b.inner)
    (reached : 0 < allowance budgets (position b.inner + gap))
    (enough : patience budgets gap b.pending ≤ k) :
    (Sending.run b (.replicate k .flush)).pending = 0 := by
  -- each flush takes one off `k` and at least one off the patience
  induction k generalizing b gap with
  | zero =>
    cases left : b.pending with
    | zero => exact left
    | succ length =>
      rw [left, patience] at enough
      omega
  | succ k ih =>
    have kept := (perform_settles throttled.honest sound .flush).1
    by_cases empty : b.pending = 0
    · obtain ⟨gap', _, reached'⟩ :=
        exists_allowance_pos some (position (Sending.flush.perform b).2.inner)
      refine ih kept reached' ?_
      rw [pending_flush_of_empty empty]
      exact Nat.zero_le _
    · obtain ⟨gap', reached', less⟩ := patience_flush throttled some sound empty reached
      exact ih kept reached' (by omega)

/-- As many flushes as the list of budgets is long for each byte that is pending, or more, send all
that is pending in order, and none fails. So all that a writer was ever given is delivered. -/
theorem flushes_deliver (throttled : Throttled budgets Sound taken position)
    (some : ∃ budget ∈ budgets, 0 < budget) (sound : Sound b.inner) {k : Nat}
    (enough : budgets.length * b.pending ≤ k) :
    let flushes := List.replicate k Sending.flush
    let after := Sending.run b flushes
    Sending.AllSucceed b flushes ∧ after.pending = 0 ∧
    taken after.inner = taken b.inner ++ Fifo.bytes b.queue ∧
    ∀ (s : S) (cs : List Sending), Sound s → b = Sending.run (.new s) cs →
      taken after.inner = taken s ++ Sending.submitted cs := by
  intro flushes after
  have honest := throttled.honest
  have succeed (cs : List Sending) {b : Buffered S Q} (sound : Sound b.inner) :
      Sending.AllSucceed b cs := allSucceed_of_unfailing honest throttled.unfailing cs sound
  obtain ⟨gap, inside, reached⟩ := exists_allowance_pos some (position b.inner)
  have empty : after.pending = 0 :=
    pending_flushes throttled some sound reached ((patience_le inside _).trans enough)
  have all : taken after.inner = taken b.inner ++ Fifo.bytes b.queue := by
    obtain ⟨sent, grown, whole⟩ := succeeding_run_conserves honest flushes sound (succeed _ sound)
    have none : Fifo.bytes after.queue = [] := by
      rw [← List.length_eq_zero_iff, ← pending_eq_length]
      exact empty
    have nothing : Sending.submitted flushes = [] := by
      simp [flushes, Sending.submitted, Sending.bytes]
    rw [show Fifo.bytes (Sending.run b flushes).queue = [] from none, nothing, List.append_nil,
      List.append_nil] at whole
    rw [show taken after.inner = _ from grown, whole]
  refine ⟨succeed flushes sound, empty, all, fun s cs start same => ?_⟩
  obtain ⟨sent, grown, whole⟩ := succeeding_run_conserves (Q := Q) honest cs (b := .new s) start
    (succeed cs start)
  rw [← same] at grown whole
  rw [all, grown, List.append_assoc, whole]
  simp [new]

/-- Every second write has to wait, the first of all among them. -/
theorem flushes_deliver_stalling :
    let s := Scripted.new [] (.cycle [0, 2] 0) []
    let b : Buffered Scripted := Sending.run (.new s) [.write [1, 2, 3]]
    let after := Sending.run b (.replicate 6 .flush)
    Throttled [0, 2] (Scripted.OnBudgets [0, 2]) Scripted.taken Scripted.position ∧
    (∃ budget ∈ [0, 2], 0 < budget) ∧ Scripted.OnBudgets [0, 2] b.inner ∧
    b.pending = 3 ∧ [0, 2].length * b.pending ≤ 6 ∧
    after.pending = 0 ∧ after.inner.taken = [1, 2, 3] := by
  intro s b after
  have throttled := Scripted.throttled [0, 2]
  have start : Scripted.OnBudgets [0, 2] s := ⟨rfl, rfl, rfl⟩
  have sound : Scripted.OnBudgets [0, 2] b.inner :=
    run_sound (Q := ByteQueue) throttled.honest [.write [1, 2, 3]] (b := .new s) start
  have pending : b.pending = 3 := by decide +kernel
  have some : ∃ budget ∈ [0, 2], 0 < budget := ⟨2, by decide, by decide⟩
  have enough : [0, 2].length * b.pending ≤ 6 := by
    rw [pending]
    decide
  obtain ⟨_, empty, _, all⟩ := flushes_deliver throttled some sound enough
  exact ⟨throttled, some, sound, pending, enough, empty, all s [.write [1, 2, 3]] start rfl⟩

end Buffered
end StreamTransport
