import StreamTransport.Proofs.Stream.Flags
import StreamTransport.Proofs.Stream.Independence

/-!
# The two directions of a writer

A buffered writer is one object for both directions, and both may fail. Over an
inner stream with independent directions the writer keeps them so: what is seen
of the sendings is what is seen without the reads, and what is seen of the reads
is what is seen without the sendings.

Nothing else is asked of the inner stream. It may lie about what it takes.
-/

set_option autoImplicit false

namespace StreamTransport

/-- The call on the stream that an offer is, and its answer. -/
def Offer.call {S : Type} (o : Offer S) : Bytes × Outcome (Progress Nat) := (o.data, o.answer)

namespace Buffered

open Transfer

variable {S Q : Type}

/-- What a writer keeps for one direction, beside the inner stream. -/
def kept (b : Buffered S Q) : Direction → Option Q × Bool
  | .write => (some b.queue, b.writeBlocked)
  | .read => (none, b.readBlocked)

variable [Duplex Id S]

/-- Two writers that agree in all that matters for one direction. -/
structure Alike (s : S) (way : Direction) (b b' : Buffered S Q) : Prop where
  inner : Twins s way b.inner b'.inner
  kept : b.kept way = b'.kept way

variable {s : S} {way : Direction} {b b' : Buffered S Q}

/-- Writers alike in writing differ in the inner stream and in the flag for reading only. -/
theorem Alike.eq_of_write (h : Alike s .write b b') :
    b' = { b with inner := b'.inner, readBlocked := b'.readBlocked } := by
  obtain ⟨_, same⟩ := h
  obtain ⟨queue, flag⟩ := Prod.mk.inj same
  cases b
  cases b'
  simp_all

variable [Fifo Q]

section
variable {after : Buffered S Q} {offers : List (Offer S)} {result : Outcome Unit}

/-- Twins in writing drain alike, whatever was read from either. -/
theorem Drains.alike (independent : Independent s) (h : Drains b offers result after) {t : S}
    (twins : Twins s .write b.inner t) (flag : Bool) :
    ∃ offers' t', Drains { b with inner := t, readBlocked := flag } offers' result
        { after with inner := t', readBlocked := flag } ∧
      offers'.map Offer.call = offers.map Offer.call ∧ Twins s .write after.inner t' := by
  induction h generalizing t with
  | idle empty => exact ⟨[], t, .idle empty, rfl, twins⟩
  | accepted queued answered _ ih =>
    obtain ⟨t', answered', twins'⟩ := twins.write independent answered
    obtain ⟨offers', last, rest, same, left⟩ := ih twins'
    exact ⟨_, last, .accepted queued answered' rest, congrArg (_ :: ·) same, left⟩
  | refused queued answered nothing =>
    obtain ⟨t', answered', twins'⟩ := twins.write independent answered
    exact ⟨_, t', .refused queued answered' nothing, rfl, twins'⟩
  | failed queued answered fatal =>
    obtain ⟨t', answered', twins'⟩ := twins.write independent answered
    exact ⟨_, t', .failed queued answered' fatal, rfl, twins'⟩

/-- A drain is not noticed in reading. -/
theorem Drains.unread (h : Drains b offers result after) {t : S} (twins : Twins s .read b.inner t) :
    Twins s .read after.inner t := by
  induction h with
  | idle _ => exact twins
  | accepted _ answered _ ih => exact ih (twins.written answered)
  | refused _ answered _ => exact twins.written answered
  | failed _ answered _ => exact twins.written answered

end

/-- The calls that a sending makes on the inner stream, with their answers. -/
def offered? (b : Buffered S Q) : Request → Option (List (Bytes × Outcome (Progress Nat)))
  | .send c => some ((b.offers c).map Offer.call)
  | _ => none

namespace Alike

theorem send (independent : Independent s) (h : Alike s .write b b') (c : Sending) :
    Alike s .write (c.perform b).2 (c.perform b').2 ∧ (c.perform b).1 = (c.perform b').1 ∧
      b.offered? (.send c) = b'.offered? (.send c) := by
  obtain ⟨result, drained, answered⟩ := drains_perform b c
  obtain ⟨offers', t', drained', same, twins⟩ :=
    drained.alike independent (by simpa using h.inner) b'.readBlocked
  have loaded : { b.loaded c with inner := b'.inner, readBlocked := b'.readBlocked } =
      b'.loaded c := by
    rw [h.eq_of_write]
    cases c <;> rfl
  rw [loaded] at drained'
  obtain ⟨seen, performed⟩ := drained'.sending
  rw [performed, offered?, offered?, seen, same]
  exact ⟨⟨twins, rfl⟩, answered, rfl⟩

theorem read (independent : Independent s) (h : Alike s .read b b') (size : Nat) :
    Alike s .read (Duplex.read (m := Id) b size).2 (Duplex.read (m := Id) b' size).2 ∧
      (Duplex.read (m := Id) b size).1 = (Duplex.read (m := Id) b' size).1 := by
  have same : (Duplex.read (m := Id) b size).1 = (Duplex.read (m := Id) b' size).1 :=
    congrFun (h.inner.view_eq independent.reads) size
  have flags : (Duplex.read (m := Id) b size).2.readBlocked =
      (Duplex.read (m := Id) b' size).2.readBlocked := by
    rw [Bool.eq_iff_iff, readBlocked_read_iff, readBlocked_read_iff, same]
  exact ⟨⟨h.inner.along (.read size), Prod.ext rfl flags⟩, same⟩

theorem along (independent : Independent s) (t : Transfer Sending) (same : t.direction = way)
    (h : Alike s way b b') : Alike s way ((t.request id).after b) ((t.request id).after b') := by
  subst same
  cases t with
  | send c => exact (h.send independent c).1
  | read size => exact (h.read independent size).1

theorem across (t : Transfer Sending) (other : t.direction ≠ way) (h : Alike s way b b') :
    Alike s way ((t.request id).after b) b' := by
  cases t with
  | send c =>
    cases way with
    | write => exact absurd rfl other
    | read =>
      obtain ⟨_, drained, _⟩ := drains_perform b c
      refine ⟨drained.unread (by simpa using h.inner), ?_⟩
      rw [← h.kept]
      exact Prod.ext rfl (readBlocked_perform b c)
  | read size =>
    cases way with
    | write => exact ⟨h.inner.across (c := .read size) nofun, h.kept⟩
    | read => exact absurd rfl other

theorem run (independent : Independent s) (ts : List (Transfer Sending)) (h : Alike s way b b') :
    Alike s way (Request.run b (requests id ts)) (Request.run b' (requests id (only way ts))) :=
  run_only (along independent) across ts h

end Alike

/-- Of a request only a call in one direction is seen, and the same of writers alike for it. -/
structure Sees {α : Type} (s : S) (way : Direction) (seen? : Buffered S Q → Request → Option α) :
    Prop where
  aside (b : Buffered S Q) (t : Transfer Sending) : t.direction ≠ way →
    seen? b (t.request id) = none
  same {b b' : Buffered S Q} (t : Transfer Sending) : Alike s way b b' → t.direction = way →
    seen? b (t.request id) = seen? b' (t.request id)

/-- What is seen of a run in one direction is seen of its calls in that direction alone. -/
theorem Sees.trace (independent : Independent s) {α : Type}
    {seen? : Buffered S Q → Request → Option α} (sees : Sees s way seen?)
    (ts : List (Transfer Sending)) (h : Alike s way b b') :
    Request.trace seen? b (requests id ts) =
      Request.trace seen? b' (requests id (only way ts)) := by
  induction ts generalizing b b' with
  | nil => rfl
  | cons t ts ih =>
    by_cases same : t.direction = way
    · have rest := ih (h.along independent t same)
      rw [only_cons_along same]
      simp only [requests, List.map_cons, Request.trace]
      rw [sees.same t h same]
      exact congrArg (_ ++ ·) rest
    · have rest := ih (h.across t same)
      rw [only_cons_across same]
      simp only [requests, List.map_cons, Request.trace]
      rw [sees.aside b t same]
      exact rest

theorem sees_answers (independent : Independent s) :
    Sees s .write (Request.answered? (S := Buffered S Q)) where
  aside b t other := by
    cases t with
    | send c => exact absurd rfl other
    | read size => rfl
  same t h along := by
    cases t with
    | send c => exact congrArg some (h.send independent c).2.1
    | read size => cases along

theorem sees_offers (independent : Independent s) : Sees s .write (offered? (S := S) (Q := Q)) where
  aside b t other := by
    cases t with
    | send c => exact absurd rfl other
    | read size => rfl
  same t h along := by
    cases t with
    | send c => exact (h.send independent c).2.2
    | read size => cases along

theorem sees_received (independent : Independent s) :
    Sees s .read (Request.received? (S := Buffered S Q)) where
  aside b t other := by
    cases t with
    | send c => rfl
    | read size => exact absurd rfl other
  same t h along := by
    cases t with
    | send c => cases along
    | read size => exact congrArg some (h.read independent size).2

/-- Reads and sendings of one run do not disturb each other. Without the reads the sendings have the
same answers and make the same calls on the inner stream, with the same answers, and as much is
queued. An honest stream has taken the same, and any stream is the same in all that depends on its
writes alone. Without the sendings the reads have the same answers. Hence no read, failed or not,
touches the queue, and no sending changes what the next read answers. -/
theorem directions_apart (independent : Independent s) (ts : List (Transfer Sending)) :
    let start : Buffered S Q := .new s
    let whole := requests id ts
    let sends := requests id (only .write ts)
    let reads := requests id (only .read ts)
    let b := Request.run start whole
    let sent := Request.run start sends
    let got := Request.run start reads
    (Request.trace Request.answered? start whole = Request.trace Request.answered? start sends ∧
      Request.trace offered? start whole = Request.trace offered? start sends ∧
      (∀ {Sound : S → Prop} {taken : S → Bytes}, Honest Sound taken → Quiet Sound taken → Sound s →
        taken b.inner = taken sent.inner) ∧
      (∀ {α : Type} {view : S → α}, DependsOnly s .write view → view b.inner = view sent.inner) ∧
      b.queue = sent.queue ∧ b.pending = sent.pending ∧ b.writeBlocked = sent.writeBlocked) ∧
    (Request.trace Request.received? start whole = Request.trace Request.received? start reads ∧
      (∀ {α : Type} {view : S → α}, DependsOnly s .read view → view b.inner = view got.inner) ∧
      b.readBlocked = got.readBlocked) ∧
    (∀ size, (Duplex.read (m := Id) b size).2.queue = b.queue) ∧
    ∀ (c : Sending) (size : Nat),
      (Duplex.read (m := Id) (c.perform b).2 size).1 = (Duplex.read (m := Id) b size).1 := by
  intro start whole sends reads b sent got
  have alike (way : Direction) : Alike s way start start := ⟨.refl s way, rfl⟩
  have writing : Alike s .write b sent := (alike .write).run independent ts
  have reading : Alike s .read b got := (alike .read).run independent ts
  obtain ⟨queue, blocked⟩ := Prod.mk.inj writing.kept
  have queue : b.queue = sent.queue := Option.some.inj queue
  refine ⟨⟨(sees_answers independent).trace independent ts (alike .write),
      (sees_offers independent).trace independent ts (alike .write),
      fun honest quiet sound => writing.inner.view_eq (independent.taken honest quiet sound),
      writing.inner.view_eq, queue, congrArg Fifo.length queue, blocked⟩,
    ⟨(sees_received independent).trace independent ts (alike .read),
      reading.inner.view_eq, (Prod.mk.inj reading.kept).2⟩, fun _ => rfl, fun c size => ?_⟩
  have after : Alike s .read (c.perform b).2 got := reading.across (.send c) nofun
  rw [(after.read independent size).2, (reading.read independent size).2]

/-- A stream that breaks in both directions: the second read comes through as it does without the
sendings, and what was taken is what is taken without the reads. -/
theorem directions_apart_broken :
    let s := Scripted.new [.accept 1, .fail .brokenPipe] .all [.fail .connectionReset, .data [7]]
    let ts : List (Transfer Sending) :=
      [.send (.write [1, 2]), .read 4, .send (.write [3]), .read 4]
    let start : Buffered Scripted := .new s
    Independent s ∧
    Request.trace Request.received? start (requests id ts) =
      [.error (.stream (.read .connectionReset)), .ok (.moved [7])] ∧
    (Request.run start (requests id ts)).inner.taken =
      (Request.run start (requests id (only .write ts))).inner.taken := by
  intro s ts start
  have sound : Scripted.Within Scripted.Candid s :=
    ⟨by simp [s, Scripted.new, Scripted.Candid], by simp [s, Scripted.new]⟩
  have apart := directions_apart (Q := ByteQueue) s.independent ts
  exact ⟨s.independent, apart.2.1.1, apart.1.2.2.1 Scripted.candid_honest Scripted.quiet sound⟩

end Buffered
end StreamTransport
