import StreamTransport.Proofs.Stream.Epochs

/-!
# Layers of buffered writers

Of several layers only the innermost ever holds bytes. What is written to the
outermost is written to the innermost as it is, because an empty queue offers
what it is given in one piece. A flush, or a write of nothing, ends at the
outermost layer.

So several layers are as one as long as the bottom stream makes nobody wait, and
no longer: the outermost layer is never blocked, and flushing it does nothing.
-/

set_option autoImplicit false

namespace StreamTransport

/-- What is seen of a writer from outside. -/
structure Sight where
  taken : Bytes
  unsent : Nat
  writeBlocked : Bool
  deriving DecidableEq, Repr

namespace Buffered

variable {T : Type} {b : Buffered T}

def sight [StreamStatus T] (taken : T → Bytes) (b : Buffered T) : Sight :=
  ⟨taken b.inner, StreamStatus.unsent b, StreamStatus.writeBlocked b⟩

variable [Duplex Id T]

/-- A writer with nothing queued and nothing to wait for is not changed by sending nothing. -/
theorem perform_nothing (empty : b.queue.bytes = []) (flag : b.writeBlocked = false) {c : Sending}
    (nothing : c.bytes = []) : c.perform b = (.ok c.receipt, b) := by
  have same : b.loaded c = b := by
    cases c with
    | write data =>
      obtain rfl : data = [] := nothing
      have queue : Fifo.push b.queue [] = b.queue := ByteQueue.push_nil empty
      rw [loaded, queue, ← flag]
    | flush => rw [loaded, ← flag]
  rw [perform_eq, same, drain_idle (b := b) ((Fifo.front_eq_nil_iff b.queue).mpr empty)]
  rfl

theorem write_drain (b : Buffered T) (data : Bytes) :
    Duplex.write (m := Id) b data =
      ((drain (m := Id) (b.loaded (.write data))).1.map fun _ => .moved data.length,
        (drain (m := Id) (b.loaded (.write data))).2) := rfl

theorem write_outcome (b : Buffered T) (data : Bytes) :
    (Duplex.write (m := Id) b data).1 = .ok (.moved data.length) ∨
    ∃ cause, (Duplex.write (m := Id) b data).1 = .error cause := by
  rw [write_drain]
  cases (drain (m := Id) (b.loaded (.write data))).1 with
  | ok _ => exact .inl rfl
  | error cause => exact .inr ⟨cause, rfl⟩

/-- An empty writer hands on what it is given, if the inner stream takes it all or fails. -/
theorem write_through (empty : b.queue.bytes = []) {data : Bytes} (some : data ≠ []) {after : T}
    {answer : Outcome (Progress Nat)}
    (passed : Duplex.write (m := Id) b.inner data = (answer, after))
    (all : answer = .ok (.moved data.length) ∨ ∃ cause, answer = .error cause) :
    ∃ b' : Buffered T, Duplex.write (m := Id) b data = (answer, b') ∧ b'.inner = after ∧
      b'.queue.bytes = [] ∧ b'.writeBlocked = false := by
  have front : Fifo.front (b.loaded (.write data)).queue = data := ByteQueue.front_push empty data
  have queued : Fifo.front (b.loaded (.write data)).queue ≠ [] := by
    rw [front]
    exact some
  rcases all with rfl | ⟨cause, rfl⟩
  · obtain ⟨n, size⟩ := Nat.exists_eq_succ_of_ne_zero (mt List.length_eq_zero_iff.mp some)
    have answered : Duplex.write (m := Id) (b.loaded (.write data)).inner
        (Fifo.front (b.loaded (.write data)).queue) = (.ok (.moved (n + 1)), after) := by
      rw [front, ← Nat.succ_eq_add_one, ← size]
      exact passed
    have left : Fifo.bytes (Fifo.drop (b.loaded (.write data)).queue (n + 1)) = [] := by
      have content : Fifo.bytes b.queue = [] := empty
      rw [Fifo.bytes_drop, bytes_loaded, content, ← Nat.succ_eq_add_one, ← size]
      exact List.drop_length
    have drained := Drains.accepted queued answered (.idle ((Fifo.front_eq_nil_iff _).mpr left))
    rw [write_drain, drained.drain_eq]
    exact ⟨_, rfl, rfl, left, rfl⟩
  · have answered : Duplex.write (m := Id) (b.loaded (.write data)).inner
        (Fifo.front (b.loaded (.write data)).queue) = (.error cause, after) := by
      rw [front]
      exact passed
    have left := Fifo.bytes_clear (b.loaded (.write data)).queue
    rw [write_drain, (Drains.failed queued answered rfl).drain_eq]
    exact ⟨_, rfl, rfl, left, rfl⟩

end Buffered

namespace Stack

variable {S : Type}

/-- The layer over the bottom stream. -/
def innermost : (n : Nat) → Stack S (n + 1) → Buffered S
  | 0, b => b
  | n + 1, b => innermost n b.inner

/-- Above the innermost layer nothing is queued and nobody waits. -/
def Clear : (n : Nat) → Stack S (n + 1) → Prop
  | 0, _ => True
  | n + 1, b => b.queue.bytes = [] ∧ b.writeBlocked = false ∧ Clear n b.inner

/-- What the layers hold, from the innermost on. -/
def queues : (n : Nat) → Stack S n → List Bytes
  | 0, _ => []
  | n + 1, b => queues n b.inner ++ [b.queue.bytes]

/-- Whether a sending gets through `n` layers. -/
def reaches (n : Nat) (c : Sending) : Bool := n = 0 ∨ c.bytes ≠ []

theorem bottom_innermost (n : Nat) (t : Stack S (n + 1)) :
    bottom (n + 1) t = (innermost n t).inner := by
  induction n with
  | zero => rfl
  | succ n ih => exact ih t.inner

theorem innermost_new (s : S) (n : Nat) : innermost n (new s (n + 1)) = Buffered.new s := by
  induction n with
  | zero => rfl
  | succ n ih => exact ih

theorem clear_new (s : S) (n : Nat) : Clear n (new s (n + 1)) := by
  induction n with
  | zero => trivial
  | succ n ih => exact ⟨rfl, rfl, ih⟩

theorem Clear.flatten_queues {n : Nat} {t : Stack S (n + 1)} (clear : Clear n t) :
    (queues (n + 1) t).flatten = (innermost n t).queue.bytes := by
  induction n with
  | zero => exact List.append_nil _
  | succ n ih =>
    obtain ⟨empty, _, below⟩ := clear
    rw [queues, List.flatten_append, ih below, empty]
    exact List.append_nil _

theorem unsent_eq [StreamStatus S] (n : Nat) (t : Stack S n) :
    StreamStatus.unsent t = (queues n t).flatten.length + StreamStatus.unsent (bottom n t) := by
  induction n with
  | zero => exact (Nat.zero_add _).symm
  | succ n ih =>
    have layer : StreamStatus.unsent t = t.queue.length + StreamStatus.unsent t.inner := rfl
    rw [layer, ih t.inner, queues, bottom, List.flatten_append, List.length_append]
    simp [ByteQueue.length_bytes]
    omega

section
variable [StreamStatus S] (taken : S → Bytes)

def sight (n : Nat) (t : Stack S n) : Sight :=
  ⟨taken (bottom n t), StreamStatus.unsent t, StreamStatus.writeBlocked t⟩

/-- Several layers show what the innermost shows, except that they are never blocked. -/
theorem Clear.sight_eq {n : Nat} {t : Stack S (n + 2)} (clear : Clear (n + 1) t) :
    sight taken (n + 2) t =
      { (innermost (n + 1) t).sight taken with writeBlocked := false } := by
  have unblocked : StreamStatus.writeBlocked t = false := clear.2.1
  have one : StreamStatus.unsent (innermost (n + 1) t) =
      (innermost (n + 1) t).queue.bytes.length +
        StreamStatus.unsent (innermost (n + 1) t).inner := by
    rw [ByteQueue.length_bytes]
    rfl
  simp only [sight, Buffered.sight]
  rw [unblocked, one, unsent_eq, clear.flatten_queues, bottom_innermost]

end

variable [Duplex Id S]

/-- What is written to the outermost layer is written to the innermost. -/
theorem write_innermost {n : Nat} {t : Stack S (n + 1)} (clear : Clear n t) {data : Bytes}
    (some : data ≠ []) :
    ∃ t', Duplex.write (m := Id) t data = ((Duplex.write (m := Id) (innermost n t) data).1, t') ∧
      innermost n t' = (Duplex.write (m := Id) (innermost n t) data).2 ∧ Clear n t' := by
  induction n with
  | zero => exact ⟨_, rfl, rfl, trivial⟩
  | succ n ih =>
    obtain ⟨empty, _, below⟩ := clear
    obtain ⟨after, passed, same, clear'⟩ := ih below
    obtain ⟨t', written, rfl, empty', flag'⟩ := Buffered.write_through (b := t) empty some passed
      (Buffered.write_outcome (innermost n t.inner) data)
    exact ⟨t', written, same, empty', flag', clear'⟩

theorem perform_reaching {n : Nat} {t : Stack S (n + 1)} (clear : Clear n t) {c : Sending}
    (reaching : reaches n c = true) :
    ∃ t', c.perform t = ((c.perform (innermost n t)).1, t') ∧
      innermost n t' = (c.perform (innermost n t)).2 ∧ Clear n t' := by
  cases n with
  | zero => exact ⟨_, rfl, rfl, trivial⟩
  | succ n =>
    cases c with
    | flush => simp [reaches, Sending.bytes] at reaching
    | write data =>
      have some : data ≠ [] := by simpa [reaches, Sending.bytes] using reaching
      obtain ⟨t', written, same, clear'⟩ := write_innermost clear some
      refine ⟨t', ?_, same, clear'⟩
      rw [Sending.perform, written]
      rfl

theorem perform_idle {n : Nat} {t : Stack S (n + 1)} (clear : Clear n t) {c : Sending}
    (idle : reaches n c = false) : c.perform t = (.ok c.receipt, t) := by
  cases n with
  | zero => simp [reaches] at idle
  | succ n =>
    obtain ⟨empty, flag, _⟩ := clear
    exact Buffered.perform_nothing (b := t) empty flag (by simpa [reaches] using idle)

/-- The innermost layer runs as a single writer does on what gets through to it. -/
theorem run_innermost {n : Nat} (cs : List Sending) {t : Stack S (n + 1)} (clear : Clear n t) :
    innermost n (Sending.run t cs) = Sending.run (innermost n t) (cs.filter (reaches n)) ∧
      Clear n (Sending.run t cs) ∧
      (Sending.AllSucceed t cs → Sending.AllSucceed (innermost n t) (cs.filter (reaches n))) := by
  induction cs generalizing t with
  | nil => exact ⟨rfl, clear, id⟩
  | cons c cs ih =>
    by_cases reaching : reaches n c = true
    · obtain ⟨t', performed, same, clear'⟩ := perform_reaching clear reaching
      obtain ⟨runs, kept, succeed⟩ := ih clear'
      rw [List.filter_cons_of_pos reaching, Sending.run, performed, Sending.run, ← same]
      refine ⟨runs, kept, fun all => ?_⟩
      obtain ⟨ok, rest⟩ := all
      rw [performed] at ok rest
      refine ⟨ok, ?_⟩
      rw [← same]
      exact succeed rest
    · have idle := perform_idle clear (Bool.eq_false_iff.mpr reaching)
      obtain ⟨runs, kept, succeed⟩ := ih clear
      rw [List.filter_cons_of_neg reaching, Sending.run, idle]
      refine ⟨runs, kept, fun all => ?_⟩
      have rest := all.2
      rw [idle] at rest
      exact succeed rest

theorem bytes_eq_nil {n : Nat} {c : Sending} (idle : ¬reaches n c = true) : c.bytes = [] := by
  simp only [reaches, decide_eq_true_eq, not_or, not_not] at idle
  exact idle.2

/-- What gets through submits all there is. -/
theorem submitted_reaching (n : Nat) (cs : List Sending) :
    Sending.submitted (cs.filter (reaches n)) = Sending.submitted cs := by
  induction cs with
  | nil => rfl
  | cons c cs ih =>
    by_cases reaching : reaches n c = true
    · rw [List.filter_cons_of_pos reaching, Sending.submitted_cons, ih, Sending.submitted_cons]
    · rw [List.filter_cons_of_neg reaching, ih, Sending.submitted_cons, bytes_eq_nil reaching,
        List.nil_append]

/-- A single writer that nobody has to wait for never has anything left to flush. -/
theorem run_unblocked (n : Nat) (cs : List Sending) {b : Buffered S}
    (empty : b.queue.bytes = []) (flag : b.writeBlocked = false)
    (never : ∀ k, (Sending.run b (cs.take k)).writeBlocked = false) :
    Sending.run b cs = Sending.run b (cs.filter (reaches n)) := by
  induction cs generalizing b with
  | nil => rfl
  | cons c cs ih =>
    have flag' : (c.perform b).2.writeBlocked = false := never 1
    have empty' : (c.perform b).2.queue.bytes = [] := by
      by_contra left
      have blocked := (Buffered.writeBlocked_perform_iff b c).mpr left
      rw [flag'] at blocked
      cases blocked
    have rest := ih empty' flag' fun k => never (k + 1)
    by_cases reaching : reaches n c = true
    · rw [List.filter_cons_of_pos reaching]
      exact rest
    · rw [List.filter_cons_of_neg reaching, Sending.run, rest,
        Buffered.perform_nothing empty flag (bytes_eq_nil reaching)]

variable [StreamStatus S] (taken : S → Bytes)

/-- Layers are seen as a single writer exactly if there is only one, or the single writer is never
left blocked. More layers than one are always seen as the single writer that is sent the non-empty
writes alone, except that they are never blocked. To send them nothing changes nothing, even over
a stream that would now take all. -/
theorem layers_as_one (s : S) (n : Nat) (cs : List Sending) :
    let layers (cs : List Sending) : Stack S (n + 1) := Sending.run (new s (n + 1)) cs
    let one (cs : List Sending) : Buffered S := Sending.run (.new s) cs
    ((∀ k, sight taken (n + 1) (layers (cs.take k)) = (one (cs.take k)).sight taken) ↔
      n = 0 ∨ ∀ k, (one (cs.take k)).writeBlocked = false) ∧
    (n ≠ 0 →
      sight taken (n + 1) (layers cs) =
        { (one (cs.filter fun c => c.bytes ≠ [])).sight taken with writeBlocked := false } ∧
      ∀ c : Sending, c.bytes = [] → c.perform (layers cs) = (.ok c.receipt, layers cs)) := by
  intro layers one
  cases n with
  | zero => exact ⟨⟨fun _ => .inl rfl, fun _ _ => rfl⟩, fun none => absurd rfl none⟩
  | succ n =>
    have runs (cs : List Sending) := run_innermost cs (clear_new s (n + 1))
    have seen (cs : List Sending) : sight taken (n + 2) (layers cs) =
        { (one (cs.filter (reaches (n + 1)))).sight taken with writeBlocked := false } := by
      rw [(runs cs).2.1.sight_eq, (runs cs).1, innermost_new]
    have gets : reaches (n + 1) = fun c => decide (c.bytes ≠ []) := by
      funext c
      simp [reaches]
    refine ⟨⟨fun same => .inr fun k => ?_, fun never k => ?_⟩, fun _ => ⟨?_, fun c nothing => ?_⟩⟩
    · have flags := congrArg Sight.writeBlocked ((seen _).symm.trans (same k))
      exact flags.symm
    · have unblocked := never.resolve_left (Nat.succ_ne_zero n)
      have same : one (cs.take k) = one ((cs.take k).filter (reaches (n + 1))) := by
        refine run_unblocked (n + 1) (cs.take k) rfl rfl fun j => ?_
        rw [List.take_take]
        exact unblocked _
      rw [seen, ← same, ← unblocked k]
      rfl
    · rw [seen, gets]
    · exact perform_idle (runs cs).2.1 (by simp [reaches, nothing])

/-- A stream that makes the caller wait once, and would take all when it is flushed. -/
theorem two_layers_keep_what_one_sends :
    let s := Scripted.new [.block] .all []
    let cs : List Sending := [.write [97, 98], .flush]
    sight Scripted.taken 2 (Sending.run (new s 2) cs) = ⟨[], 2, false⟩ ∧
    (Sending.run (.new s) cs : Buffered Scripted).sight Scripted.taken = ⟨[97, 98], 0, false⟩ := by
  decide +kernel

end Stack
end StreamTransport
