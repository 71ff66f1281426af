import StreamTransport.Proofs.Stream.Layers

/-!
# Nothing is lost between the layers

What is submitted to the outermost of several layers is taken by the bottom
stream or lies in a queue, in order. A failure of the bottom stream ends the
drain of every layer, each of which empties its own queue, and is the failure
that the caller gets.
-/

set_option autoImplicit false

namespace StreamTransport.Stack

variable {S : Type}

/-- The same layers over the same stream, with its writes observed from here on. -/
def observed : (n : Nat) → Stack S n → Stack (Observed S) n
  | 0, s => ⟨s, []⟩
  | n + 1, b => { b with inner := observed n b.inner }

theorem innermost_observed (n : Nat) (t : Stack S (n + 1)) :
    innermost n (observed (n + 1) t) = (innermost n t).observed [] := by
  induction n with
  | zero => rfl
  | succ n ih => exact ih t.inner

theorem Clear.observed {n : Nat} {t : Stack S (n + 1)} (clear : Clear n t) :
    Clear n (Stack.observed (n + 1) t) := by
  induction n with
  | zero => trivial
  | succ n ih => exact ⟨clear.1, clear.2.1, ih clear.2.2⟩

variable [Duplex Id S]

/-- The writes that a sending makes on the bottom stream. -/
def offers (n : Nat) (t : Stack S n) (c : Sending) : List (Offer S) :=
  (bottom n (c.perform (observed n t)).2).offers

theorem offers_reaching {n : Nat} {t : Stack S (n + 1)} (clear : Clear n t) {c : Sending}
    (reaching : reaches n c = true) : offers (n + 1) t c = (innermost n t).offers c := by
  obtain ⟨t', performed, same, _⟩ := perform_reaching clear.observed reaching
  rw [offers, performed, bottom_innermost, same, innermost_observed]
  rfl

theorem offers_idle {n : Nat} {t : Stack S (n + 1)} (clear : Clear n t) {c : Sending}
    (idle : reaches n c = false) : offers (n + 1) t c = [] := by
  rw [offers, perform_idle clear.observed idle, bottom_innermost, innermost_observed]
  rfl

/-- A sending succeeds if no write on the bottom stream fails. Otherwise it fails as the last one
does, and no layer is left with anything queued. -/
theorem perform_outcome {n : Nat} {t : Stack S (n + 1)} (clear : Clear n t) (c : Sending) :
    ((c.perform t).1 = .ok c.receipt ∧ ∀ o ∈ offers (n + 1) t c, failure? o.answer = none) ∨
    ∃ cause, Breaks (offers (n + 1) t c) cause ∧ (c.perform t).1 = .error cause ∧
      ∀ queue ∈ queues (n + 1) (c.perform t).2, queue = [] := by
  by_cases reaching : reaches n c = true
  · obtain ⟨t', performed, same, clear'⟩ := perform_reaching clear reaching
    rw [offers_reaching clear reaching, performed]
    rcases Buffered.perform_outcome (innermost n t) c with
      succeeds | ⟨cause, breaks, failed, left, _⟩
    · exact .inl succeeds
    · refine .inr ⟨cause, breaks, failed, ?_⟩
      apply List.flatten_eq_nil_iff.mp
      rw [clear'.flatten_queues, same]
      exact left
  · have idle := Bool.eq_false_iff.mpr reaching
    rw [perform_idle clear idle, offers_idle clear idle]
    exact .inl ⟨rfl, by simp⟩

variable {Sound : S → Prop} {taken : S → Bytes}

/-- As long as no call fails, what the bottom stream has taken and then the queues, from the
innermost on, are what was submitted. What is unsent is in the queues, or in the bottom stream,
and only the innermost queue is ever filled. A call that fails does so as the bottom stream did,
whose failure ends it, and leaves every queue empty. -/
theorem layers_conserve [StreamStatus S] (honest : Honest Sound taken) {s : S} (sound : Sound s)
    (n : Nat) (cs : List Sending) :
    let t : Stack S (n + 1) := Sending.run (new s (n + 1)) cs
    (Sending.AllSucceed (new s (n + 1)) cs → ∃ sent, taken (bottom (n + 1) t) = taken s ++ sent ∧
      sent ++ (queues (n + 1) t).flatten = Sending.submitted cs) ∧
    StreamStatus.unsent t =
      (queues (n + 1) t).flatten.length + StreamStatus.unsent (bottom (n + 1) t) ∧
    Clear n t ∧
    ∀ c : Sending,
      ((c.perform t).1 = .ok c.receipt ∧ ∀ o ∈ offers (n + 1) t c, failure? o.answer = none) ∨
      ∃ cause, Breaks (offers (n + 1) t c) cause ∧ (c.perform t).1 = .error cause ∧
        ∀ queue ∈ queues (n + 1) (c.perform t).2, queue = [] := by
  intro t
  obtain ⟨runs, clear, succeed⟩ := run_innermost cs (clear_new s n)
  refine ⟨fun all => ?_, unsent_eq (n + 1) t, clear, perform_outcome clear⟩
  rw [innermost_new] at runs succeed
  obtain ⟨sent, grown, whole⟩ := Buffered.succeeding_run_conserves honest (cs.filter (reaches n))
    (b := Buffered.new s) sound (succeed all)
  refine ⟨sent, ?_, ?_⟩
  · rw [bottom_innermost, runs]
    exact grown
  · rw [clear.flatten_queues, runs, ← submitted_reaching n cs]
    exact whole

/-- Three layers over a stream that takes one byte, makes the caller wait, and then breaks. -/
theorem layers_conserve_broken :
    let s := Scripted.new [.accept 1, .block, .fail .brokenPipe] .all []
    let t : Stack Scripted 3 := Sending.run (new s 3) [.write [1, 2]]
    Honest (Scripted.Within Scripted.Candid) Scripted.taken ∧
    Scripted.Within Scripted.Candid s ∧
    Sending.AllSucceed (new s 3) [.write [1, 2]] ∧
    (bottom 3 t).taken ++ (queues 3 t).flatten = [1, 2] := by
  intro s t
  have sound : Scripted.Within Scripted.Candid s :=
    ⟨by simp [s, Scripted.new, Scripted.Candid], by simp [s, Scripted.new]⟩
  have succeed : Sending.AllSucceed (new s 3) [.write [1, 2]] := ⟨by decide +kernel, trivial⟩
  obtain ⟨sent, grown, whole⟩ :=
    (layers_conserve Scripted.candid_honest sound 2 [.write [1, 2]]).1 succeed
  have taken : (bottom 3 t).taken = sent := grown
  exact ⟨Scripted.candid_honest, sound, succeed, by rw [taken]; exact whole⟩

end StreamTransport.Stack
