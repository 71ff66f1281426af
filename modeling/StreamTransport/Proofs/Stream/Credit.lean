import StreamTransport.Proofs.Stream.Drain

/-!
# Bytes against credit

A metered stream has a credit. It takes as many bytes of a write as the credit
allows, spends that much of it, and makes the caller wait once there is none.

A drain stops only when the queue is empty or the credit is spent. So after a
flush what is delivered depends on the bytes submitted and the credit granted,
and on neither how the bytes were cut nor when anything happened.
-/

set_option autoImplicit false

namespace StreamTransport

section
variable {S : Type} [Duplex Id S]

structure Metered (Sound : S → Prop) (taken : S → Bytes) (credit : S → Nat)
    (grant : S → Nat → S) : Prop where
  answer {s : S} {data : Bytes} : Sound s → data ≠ [] → (Duplex.write (m := Id) s data).1 =
    if credit s = 0 then .ok .wouldBlock else .ok (.moved (min (credit s) data.length))
  sound_write {s : S} {data : Bytes} : Sound s → data ≠ [] →
    Sound (Duplex.write (m := Id) s data).2
  taken_write {s : S} {data : Bytes} : Sound s → data ≠ [] →
    taken (Duplex.write (m := Id) s data).2 = taken s ++ data.take (credit s)
  credit_write {s : S} {data : Bytes} : Sound s → data ≠ [] →
    credit (Duplex.write (m := Id) s data).2 = credit s - data.length
  sound_grant {s : S} (n : Nat) : Sound s → Sound (grant s n)
  taken_grant {s : S} (n : Nat) : Sound s → taken (grant s n) = taken s
  credit_grant {s : S} (n : Nat) : Sound s → credit (grant s n) = credit s + n

theorem Metered.answered {Sound : S → Prop} {taken : S → Bytes} {credit : S → Nat}
    {grant : S → Nat → S} (metered : Metered Sound taken credit grant) {s after : S} {data : Bytes}
    {answer : Outcome (Progress Nat)} (sound : Sound s) (some : data ≠ [])
    (h : Duplex.write (m := Id) s data = (answer, after)) :
    (answer = if credit s = 0 then .ok .wouldBlock else .ok (.moved (min (credit s) data.length))) ∧
    Sound after ∧ taken after = taken s ++ data.take (credit s) ∧
    credit after = credit s - data.length := by
  have told := metered.answer sound some
  have kept := metered.sound_write sound some
  have took := metered.taken_write sound some
  have left := metered.credit_write sound some
  rw [h] at told kept took left
  exact ⟨told, kept, took, left⟩

end

namespace Scripted

/-- What the rule has left to give. -/
def credit (s : Scripted) : Nat :=
  match s.rule with
  | .credit left => left
  | _ => 0

/-- Only the credit decides what becomes of a write. -/
def OnCredit (s : Scripted) : Prop := s.paused = false ∧ s.script = [] ∧ s.rule = .credit s.credit

theorem write_onCredit {s : Scripted} (h : OnCredit s) (data : Bytes) :
    s.write data =
      let verdict := if (data.take s.credit).length = 0 then .block else .accept s.credit
      ((apply data verdict).2, { s with
        rule := .credit (s.credit - (data.take s.credit).length)
        pieces := (apply data verdict).1 :: s.pieces
        history := .write data (apply data verdict).2 :: s.history }) := by
  obtain ⟨running, unscripted, rule⟩ := h
  rw [write_ruled running unscripted, rule]
  rfl

theorem metered : Metered OnCredit taken credit grant where
  answer {s data} sound some := by
    have positive := List.length_pos_iff.mpr some
    change (s.write data).1 = _
    rw [write_onCredit sound]
    by_cases spent : s.credit = 0
    · simp [spent, apply]
    · simp [spent, some, apply, Nat.min_comm]
  sound_write {s data} sound _ := by
    change OnCredit (s.write data).2
    rw [write_onCredit sound]
    exact ⟨sound.1, sound.2.1, rfl⟩
  taken_write {s data} sound _ := by
    change (s.write data).2.taken = _
    rw [write_onCredit sound]
    by_cases spent : s.credit = 0
    · simp [spent, apply, taken]
    · by_cases none : data = []
      · simp [none, apply, taken]
      · simp [spent, none, apply, taken]
  credit_write {s data} sound _ := by
    change (s.write data).2.credit = _
    rw [write_onCredit sound]
    simp only [credit, List.length_take]
    omega
  sound_grant {s} n sound := by
    obtain ⟨running, unscripted, rule⟩ := sound
    unfold grant
    rw [rule]
    exact ⟨running, unscripted, rfl⟩
  taken_grant {s} n sound := by
    unfold grant
    rw [sound.2.2]
    rfl
  credit_grant {s} n sound := by
    unfold grant
    rw [sound.2.2]
    rfl

end Scripted

namespace Buffered

variable {S Q : Type} [Fifo Q]

/-- A sending, or more credit for the stream below. -/
inductive Turn where
  | send (c : Sending)
  | supply (n : Nat)

namespace Turn

def bytes : Turn → Bytes
  | send c => c.bytes
  | supply _ => []

def credit : Turn → Nat
  | send _ => 0
  | supply n => n

def submitted (ts : List Turn) : Bytes := ts.flatMap bytes

def granted : List Turn → Nat
  | [] => 0
  | t :: ts => t.credit + granted ts

@[simp] theorem submitted_nil : submitted [] = [] := rfl

@[simp] theorem granted_nil : granted [] = 0 := rfl

@[simp] theorem submitted_cons (t : Turn) (ts : List Turn) :
    submitted (t :: ts) = t.bytes ++ submitted ts := rfl

@[simp] theorem granted_cons (t : Turn) (ts : List Turn) :
    granted (t :: ts) = t.credit + granted ts := rfl

variable [Duplex Id S] (grant : S → Nat → S)

def after (b : Buffered S Q) : Turn → Buffered S Q
  | send c => (c.perform b).2
  | supply n => { b with inner := grant b.inner n }

def run (b : Buffered S Q) : List Turn → Buffered S Q
  | [] => b
  | t :: ts => run (after grant b t) ts

theorem run_append (b : Buffered S Q) (ts rest : List Turn) :
    run grant b (ts ++ rest) = run grant (run grant b ts) rest := by
  induction ts generalizing b with
  | nil => rfl
  | cons t ts ih => exact ih _

end Turn

/-- The first part of the queue that one write takes, and what it leaves of the credit. -/
theorem take_front (b : Buffered S Q) {k n : Nat}
    (h : n = min k (Fifo.front b.queue).length) :
    (Fifo.front b.queue).take k = (Fifo.bytes b.queue).take n ∧
      k - (Fifo.front b.queue).length = k - n := by
  refine ⟨?_, by omega⟩
  rw [Fifo.bytes, List.take_append_of_le_length (by omega), h, ← List.take_eq_take_min]

variable {Sound : S → Prop} {taken : S → Bytes} {credit : S → Nat} {grant : S → Nat → S}

/-- After `whole` was submitted and `total` granted to a writer that began over `s`: what was sent
and what is queued are `whole`, and what was sent and what is left of the credit make `total`. -/
structure Accounts (Sound : S → Prop) (taken : S → Bytes) (credit : S → Nat) (s : S)
    (b : Buffered S Q) (whole : Bytes) (total : Nat) (sent : Bytes) : Prop where
  sound : Sound b.inner
  taken_eq : taken b.inner = taken s ++ sent
  bytes_eq : sent ++ Fifo.bytes b.queue = whole
  credit_eq : credit b.inner + sent.length = total

namespace Accounts

theorem new {s : S} (sound : Sound s) :
    Accounts Sound taken credit s (Buffered.new (Q := Q) s) [] (credit s) [] where
  sound := sound
  taken_eq := by simp [Buffered.new]
  bytes_eq := by simp [Buffered.new]
  credit_eq := rfl

end Accounts

variable [Duplex Id S]

/-- A drain spends the credit on the front of the queue until one of the two is used up. -/
theorem Drains.spends (metered : Metered Sound taken credit grant) {b after : Buffered S Q}
    {offers : List (Offer S)} {result : Outcome Unit} (h : Drains b offers result after)
    (sound : Sound b.inner) :
    Sound after.inner ∧
    taken after.inner = taken b.inner ++ (Fifo.bytes b.queue).take (credit b.inner) ∧
    Fifo.bytes after.queue = (Fifo.bytes b.queue).drop (credit b.inner) ∧
    credit after.inner = credit b.inner - (Fifo.bytes b.queue).length := by
  induction h with
  | idle empty => simp [sound, (Fifo.front_eq_nil_iff _).mp empty]
  | @accepted b after inner n offers result queued answered _ ih =>
    obtain ⟨told, kept, took, spent⟩ := metered.answered sound queued answered
    split at told
    · cases told
    · have count : n + 1 = min (credit b.inner) (Fifo.front b.queue).length := by simpa using told
      obtain ⟨front, rest⟩ := take_front b count
      obtain ⟨kept', grown, left, spent'⟩ := ih kept
      rw [Fifo.bytes_drop, spent, rest] at grown left spent'
      rw [took, front] at grown
      have split : n + 1 + (credit b.inner - (n + 1)) = credit b.inner := by omega
      refine ⟨kept', ?_, ?_, ?_⟩
      · rw [grown, List.append_assoc, ← List.take_add, split]
      · rw [left, List.drop_drop, split]
      · have whole : (Fifo.bytes b.queue).length =
            (Fifo.front b.queue).length + (Fifo.back b.queue).length := List.length_append
        rw [spent', List.length_drop]
        omega
  | @refused b inner answer queued answered nothing =>
    obtain ⟨told, kept, took, left⟩ := metered.answered sound queued answered
    split at told
    · next spent =>
      simp only [spent, List.take_zero, List.append_nil, Nat.zero_sub] at took left
      exact ⟨kept, by simp [took, spent], by simp [spent], by simp [left, spent]⟩
    · have := List.length_pos_iff.mpr queued
      subst told
      simp only [Except.ok.injEq, Progress.moved.injEq, reduceCtorEq, or_false] at nothing
      omega
  | @failed b inner answer cause queued answered fatal =>
    have told := (metered.answered sound queued answered).1
    split at told <;> subst told <;> cases fatal

namespace Accounts

variable {s : S} {b : Buffered S Q} {whole sent : Bytes} {total : Nat}

/-- A sending sends as much of all that was ever submitted as the whole credit allows. -/
theorem perform (metered : Metered Sound taken credit grant)
    (h : Accounts Sound taken credit s b whole total sent) (c : Sending) :
    Accounts Sound taken credit s (c.perform b).2 (whole ++ c.bytes) total
        ((whole ++ c.bytes).take total) ∧
      Fifo.bytes (c.perform b).2.queue = (whole ++ c.bytes).drop total := by
  obtain ⟨_, drained, _⟩ := drains_perform b c
  obtain ⟨kept, grown, left, spent⟩ := drained.spends metered (by simpa using h.sound)
  simp only [inner_loaded, bytes_loaded] at grown left spent
  have part : (whole ++ c.bytes).take total =
      sent ++ (Fifo.bytes b.queue ++ c.bytes).take (credit b.inner) := by
    rw [← h.bytes_eq, ← h.credit_eq, Nat.add_comm, List.append_assoc, List.take_length_add_append]
  have rest : (whole ++ c.bytes).drop total =
      (Fifo.bytes b.queue ++ c.bytes).drop (credit b.inner) := by
    rw [← h.bytes_eq, ← h.credit_eq, Nat.add_comm, List.append_assoc, List.drop_length_add_append]
  rw [← rest] at left
  refine ⟨⟨kept, ?_, ?_, ?_⟩, left⟩
  · rw [grown, h.taken_eq, part, List.append_assoc]
  · rw [left, List.take_append_drop]
  · have := h.credit_eq
    simp only [spent, part, List.length_append, List.length_take]
    omega

theorem supply (metered : Metered Sound taken credit grant)
    (h : Accounts Sound taken credit s b whole total sent) (n : Nat) :
    Accounts Sound taken credit s { b with inner := grant b.inner n } whole (total + n) sent where
  sound := metered.sound_grant n h.sound
  taken_eq := by rw [metered.taken_grant n h.sound, h.taken_eq]
  bytes_eq := h.bytes_eq
  credit_eq := by
    rw [metered.credit_grant n h.sound, ← h.credit_eq]
    omega

theorem run (metered : Metered Sound taken credit grant) (ts : List Turn)
    (h : Accounts Sound taken credit s b whole total sent) :
    ∃ sent', Accounts Sound taken credit s (Turn.run grant b ts) (whole ++ Turn.submitted ts)
      (total + Turn.granted ts) sent' := by
  induction ts generalizing b whole total sent with
  | nil => exact ⟨sent, by simpa [Turn.run] using h⟩
  | cons t ts ih =>
    cases t with
    | send c =>
      obtain ⟨next, _⟩ := h.perform metered c
      simpa [Turn.run, Turn.after, Turn.bytes, Turn.credit] using ih next
    | supply n =>
      simpa [Turn.run, Turn.after, Turn.bytes, Turn.credit, Nat.add_assoc] using
        ih (h.supply metered n)

end Accounts

/-- The writer after a run that ends in a flush. -/
def flushed (grant : S → Nat → S) (s : S) (ts : List Turn) : Buffered S Q :=
  Turn.run grant (.new s) (ts ++ [.send .flush])

theorem flushed_accounts (metered : Metered Sound taken credit grant) {s : S} (sound : Sound s)
    (ts : List Turn) :
    let b : Buffered S Q := flushed grant s ts
    let whole := Turn.submitted ts
    let total := credit s + Turn.granted ts
    Accounts Sound taken credit s b whole total (whole.take total) ∧
      Fifo.bytes b.queue = whole.drop total ∧
      (b.writeBlocked = true ↔ Fifo.bytes b.queue ≠ []) := by
  intro b whole total
  obtain ⟨sent, before⟩ := Accounts.run metered ts (.new (Q := Q) sound)
  have last : b = (Sending.flush.perform (Turn.run grant (.new s) ts)).2 := Turn.run_append ..
  obtain ⟨accounts, left⟩ := before.perform metered .flush
  rw [← last] at accounts left
  simp only [Sending.bytes, List.nil_append, List.append_nil] at accounts left
  exact ⟨accounts, left, last ▸ writeBlocked_perform_iff _ _⟩

/-- After a run that ends in a flush as much of what was submitted is delivered as the credit
allows, the rest is pending, and the writer is blocked exactly if there is a rest. Another run that
submits the same bytes and is granted the same credit ends alike. -/
theorem delivered_by_credit (metered : Metered Sound taken credit grant) {s : S} (sound : Sound s)
    (ts : List Turn) :
    let b : Buffered S Q := flushed grant s ts
    let whole := Turn.submitted ts
    let total := credit s + Turn.granted ts
    taken b.inner = taken s ++ whole.take (min whole.length total) ∧
    b.pending = whole.length - min whole.length total ∧
    (b.writeBlocked = true ↔ b.pending ≠ 0) ∧
    ∀ us : List Turn, Turn.submitted us = whole → Turn.granted us = Turn.granted ts →
      let b' : Buffered S Q := flushed grant s us
      taken b'.inner = taken b.inner ∧ Fifo.bytes b'.queue = Fifo.bytes b.queue ∧
        b'.writeBlocked = b.writeBlocked ∧ credit b'.inner = credit b.inner := by
  intro b whole total
  obtain ⟨accounts, left, blocked⟩ := flushed_accounts (Q := Q) metered sound ts
  refine ⟨?_, ?_, ?_, ?_⟩
  · rw [accounts.taken_eq, Nat.min_comm, ← List.take_eq_take_min]
  · rw [pending_eq_length, left, List.length_drop]
    change whole.length - total = _
    omega
  · rw [blocked, pending_eq_length, Ne, Ne, List.length_eq_zero_iff]
  · intro us same granted b'
    obtain ⟨accounts', left', blocked'⟩ := flushed_accounts (Q := Q) metered sound us
    rw [same, granted] at accounts' left'
    have queues : Fifo.bytes b'.queue = Fifo.bytes b.queue := left'.trans left.symm
    refine ⟨accounts'.taken_eq.trans accounts.taken_eq.symm, queues, ?_, ?_⟩
    · exact Bool.eq_iff_iff.mpr (blocked'.trans (queues ▸ blocked.symm))
    · exact Nat.add_right_cancel (accounts'.credit_eq.trans accounts.credit_eq.symm)

/-- Five bytes in two writes against a credit of three that comes in between, and the same bytes
in one write after the credit. -/
theorem delivered_by_credit_split :
    let s := Scripted.new [] (.credit 0) []
    let ts : List Turn := [.send (.write [1, 2]), .supply 3, .send .flush, .send (.write [3, 4, 5])]
    let us : List Turn := [.supply 3, .send (.write [1, 2, 3, 4, 5])]
    let b : Buffered Scripted := flushed Scripted.grant s ts
    let b' : Buffered Scripted := flushed Scripted.grant s us
    Metered Scripted.OnCredit Scripted.taken Scripted.credit Scripted.grant ∧
    Scripted.OnCredit s ∧ b.inner.taken = [1, 2, 3] ∧ b.pending = 2 ∧
    Turn.submitted us = Turn.submitted ts ∧ Turn.granted us = Turn.granted ts ∧
    b'.inner.taken = b.inner.taken := by
  intro s ts us b b'
  have sound : Scripted.OnCredit s := ⟨rfl, rfl, rfl⟩
  obtain ⟨taken, pending, _, alike⟩ :=
    delivered_by_credit (Q := ByteQueue) Scripted.metered sound ts
  exact ⟨Scripted.metered, sound, taken, pending, rfl, rfl, (alike us rfl rfl).1⟩

end Buffered
end StreamTransport
