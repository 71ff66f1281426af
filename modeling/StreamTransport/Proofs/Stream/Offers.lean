import StreamTransport.Proofs.Stream.Epochs

/-!
# How long a drain takes

A drain goes on only after an offer that is said to have moved some bytes, and
then the queue gets shorter by as many, or runs empty. So it makes no more offers
than there are bytes, whatever the inner stream answers, also if it reports more
than it was offered. What it reports is never more than what was queued until the
last offer of all.
-/

set_option autoImplicit false

namespace StreamTransport

variable {S : Type}

namespace Offer

/-- The bytes that the answer reports, none unless it reports some. -/
def count (o : Offer S) : Nat :=
  match o.answer with
  | .ok progress => progress.count
  | .error _ => 0

theorem count_moved {o : Offer S} {n : Nat} (h : o.answer = .ok (.moved n)) : o.count = n := by
  rw [count, h]
  rfl

theorem count_of_nothing {o : Offer S}
    (nothing : o.answer = .ok (.moved 0) ∨ o.answer = .ok .wouldBlock) : o.count = 0 := by
  rcases nothing with h | h <;> rw [count, h] <;> rfl

def reported : List (Offer S) → Nat
  | [] => 0
  | o :: offers => o.count + reported offers

@[simp] theorem reported_nil : reported ([] : List (Offer S)) = 0 := rfl

@[simp] theorem reported_cons (o : Offer S) (offers : List (Offer S)) :
    reported (o :: offers) = o.count + reported offers := rfl

end Offer

namespace Buffered

open Offer

variable {Q : Type} [Fifo Q] [Duplex Id S]

namespace Drains

variable {b after : Buffered S Q} {offers : List (Offer S)} {result : Outcome Unit}

theorem length_le (h : Drains b offers result after) :
    offers.length ≤ (Fifo.bytes b.queue).length := by
  induction h with
  | idle _ => exact Nat.zero_le _
  | accepted queued _ _ ih =>
    have := Fifo.length_bytes_pos queued
    rw [Fifo.bytes_drop, List.length_drop] at ih
    rw [List.length_cons]
    omega
  | refused queued _ _ => exact Fifo.length_bytes_pos queued
  | failed queued _ _ => exact Fifo.length_bytes_pos queued

theorem pending_le (h : Drains b offers result after) : after.pending ≤ b.pending := by
  induction h with
  | idle _ => exact Nat.le_refl _
  | accepted queued _ _ ih => exact ih.trans (Fifo.length_drop_lt queued).le
  | refused _ _ _ => exact Nat.le_refl _
  | @failed b _ _ _ _ _ _ =>
    rw [pending_eq_zero (Fifo.bytes_clear b.queue)]
    exact Nat.zero_le _

/-- The drain from any of its offers on, by a writer that has dropped what was reported before. -/
theorem resumed {earlier later : List (Offer S)} {o : Offer S}
    (h : Drains b (earlier ++ o :: later) result after) :
    ∃ b' : Buffered S Q, Drains b' (o :: later) result after ∧
      Fifo.bytes b'.queue = (Fifo.bytes b.queue).drop (reported earlier) := by
  induction earlier generalizing b with
  | nil => exact ⟨b, h, rfl⟩
  | cons first earlier ih =>
    rw [List.cons_append] at h
    generalize rest : earlier ++ o :: later = offers at h ih
    -- only an offer that moved something is followed by another
    cases h with
    | accepted queued answered next =>
      obtain ⟨b', drained, left⟩ := ih next
      refine ⟨b', drained, ?_⟩
      rw [left, Fifo.bytes_drop, List.drop_drop, reported_cons, count_moved rfl]
    | refused queued answered nothing => simp at rest
    | failed queued answered fatal => simp at rest

theorem data_eq_front {o : Offer S} {later : List (Offer S)}
    (h : Drains b (o :: later) result after) :
    o.data = Fifo.front b.queue ∧ Fifo.front b.queue ≠ [] := by
  cases h with
  | accepted queued _ _ => exact ⟨rfl, queued⟩
  | refused queued _ _ => exact ⟨rfl, queued⟩
  | failed queued _ _ => exact ⟨rfl, queued⟩

theorem last_of_count_eq_zero {o : Offer S} {later : List (Offer S)}
    (h : Drains b (o :: later) result after) (none : o.count = 0) : later = [] := by
  cases h with
  | accepted _ _ _ => cases none
  | refused _ _ _ => rfl
  | failed _ _ _ => rfl

/-- A drain that succeeds has dropped what was reported. -/
theorem bytes_eq_drop (h : Drains b offers result after) (ok : result = .ok ()) :
    Fifo.bytes after.queue = (Fifo.bytes b.queue).drop (reported offers) := by
  induction h with
  | idle _ => simp
  | accepted _ _ _ ih =>
    rw [ih ok, Fifo.bytes_drop, List.drop_drop, reported_cons, count_moved rfl]
  | refused _ _ nothing => simp [count_of_nothing, nothing]
  | failed _ _ _ => cases ok

end Drains

/-- Every write and every flush comes to an end, whatever the inner stream answers. It makes at most
one offer for each byte that is queued. Each offers some bytes, and no more than are queued at that
moment: those queued at first less those reported since. One that moves nothing is the last. In the
end what was reported is off the queue, or all if that was more, unless the call fails: then nothing
is left. -/
theorem sendings_end (b : Buffered S Q) (c : Sending) :
    let queued := Fifo.bytes b.queue ++ c.bytes
    let offers := b.offers c
    let after := (c.perform b).2
    (∃ result, Drains (b.loaded c) offers result after ∧
      (c.perform b).1 = result.map fun _ => c.receipt) ∧
    offers.length ≤ queued.length ∧
    (∀ earlier o later, offers = earlier ++ o :: later →
      (∃ (b' : Buffered S Q) (result : Outcome Unit), Drains b' (o :: later) result after ∧
        reported earlier + b'.pending = queued.length ∧
        o.data ≠ [] ∧ o.data.length ≤ b'.pending) ∧
      (o.count = 0 → later = [])) ∧
    (after.pending + min (reported offers) queued.length = queued.length ∨
      ∃ cause, (c.perform b).1 = .error cause ∧ after.pending = 0) := by
  intro queued offers after
  obtain ⟨result, drained, answered⟩ := drains_perform b c
  have loaded : Fifo.bytes (b.loaded c).queue = queued := bytes_loaded b c
  refine ⟨⟨result, drained, answered⟩, loaded ▸ drained.length_le, ?_, ?_⟩
  · intro earlier o later split
    have whole := drained
    rw [show b.offers c = _ from split] at whole
    obtain ⟨b', rest, left⟩ := whole.resumed
    obtain ⟨data, some⟩ := rest.data_eq_front
    refine ⟨⟨b', result, rest, ?_, data ▸ some, ?_⟩, rest.last_of_count_eq_zero⟩
    · have positive := Fifo.length_bytes_pos some
      rw [left, loaded, List.length_drop] at positive
      rw [pending_eq_length, left, loaded, List.length_drop]
      omega
    · rw [data]
      exact Nat.le_add_right _ _
  · cases result with
    | ok _ =>
      have left := drained.bytes_eq_drop rfl
      rw [loaded] at left
      refine .inl ?_
      rw [pending_eq_length, left, List.length_drop]
      change queued.length - reported offers + min (reported offers) queued.length = queued.length
      omega
    | error cause => exact .inr ⟨cause, answered, pending_eq_zero (queue_of_error answered)⟩

/-- A stream that says that it took nine bytes when it was offered the second of two. -/
theorem sendings_end_misreported :
    let b : Buffered Scripted := .new (Scripted.new [.accept 1, .misreport 9] .all [])
    let offers := b.offers (.write [1, 2])
    (∃ first last, offers = [first] ++ last :: [] ∧ last.count = 9 ∧ last.data ≠ [] ∧
      last.data.length ≤ 1) ∧
    offers.length ≤ 2 ∧ ((Sending.write [1, 2]).perform b).2.pending = 0 := by
  intro b offers
  obtain ⟨_, bounded, each, left⟩ := sendings_end b (.write [1, 2])
  have counts : offers.map count = [1, 9] := by decide +kernel
  obtain ⟨first, rest, split, one, others⟩ := List.map_eq_cons_iff.mp counts
  obtain ⟨last, _, rfl, nine, none⟩ := List.map_eq_cons_iff.mp others
  obtain rfl := List.map_eq_nil_iff.mp none
  obtain ⟨⟨b', _, _, sum, some, fits⟩, _⟩ := each [first] last [] split
  refine ⟨⟨first, last, split, nine, some, ?_⟩, bounded, ?_⟩
  · have total : reported [first] + b'.pending = 2 := sum
    simp only [reported_cons, one, reported_nil] at total
    omega
  · rcases left with sum | ⟨_, _, empty⟩
    · have all : reported offers = 10 := by simp [split, one, nine]
      rw [show reported (b.offers _) = 10 from all] at sum
      exact Nat.add_right_cancel sum
    · exact empty

end Buffered
end StreamTransport
