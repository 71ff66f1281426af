import StreamTransport.Connect.Connector
import StreamTransport.Proofs.System.Contracts

/-!
# Routine requests

A routine request looks at descriptors or tunes them. It opens none and closes
none, connects nothing and asks for no name. Most of what happens around a
connect is routine, and a contract that does not care for routine requests is
met by all of it.
-/

set_option autoImplicit false

namespace StreamTransport

/-- The descriptors that a request speaks of. -/
def Call.names : Call → List Descriptor
  | clock => []
  | resolve _ _ => []
  | socket _ _ _ => []
  | connect d _ => [d]
  | readMode d => [d]
  | writeMode d _ => [d]
  | localName d => [d]
  | peerName d => [d]
  | getOption d _ => [d]
  | setOption d _ _ => [d]
  | watchCreate => []
  | watchAdd watch target _ => [watch, target]
  | watchModify watch target _ => [watch, target]
  | watchRemove watch target => [watch, target]
  | signalCount => []
  | poll _ entries _ => entries.map PollEntry.descriptor
  | receive d _ => [d]
  | peek d => [d]
  | send d _ => [d]
  | shutdown d => [d]
  | close d => [d]
  | eventCreate => []
  | eventSignal d => [d]
  | note _ => []

def Call.isRoutine : Call → Bool
  | clock => true
  | signalCount => true
  | poll _ _ _ => true
  | readMode _ => true
  | writeMode _ _ => true
  | getOption _ _ => true
  | setOption _ _ _ => true
  | watchRemove _ _ => true
  | peek _ => true
  | note _ => true
  | _ => false

/-- Routine requests that speak of the given descriptors only. -/
def routine (ds : List Descriptor) (request : Call) : Prop :=
  request.isRoutine = true ∧ request.names ⊆ ds

theorem routine_mono {ds more : List Descriptor} (h : ds ⊆ more) {request : Call}
    (routine' : routine ds request) : routine more request :=
  ⟨routine'.1, fun _ hd => h (routine'.2 hd)⟩

/-- Reading and setting the options of a descriptor, and leaving notices. -/
def tunes (d : Descriptor) : Call → Prop
  | .getOption d' _ => d' = d
  | .setOption d' _ _ => d' = d
  | .note _ => True
  | _ => False

theorem routine_of_tunes {d : Descriptor} {request : Call} (h : tunes d request) :
    routine [d] request := by
  cases request <;> simp_all [tunes, routine, Call.isRoutine, Call.names]

/-- Nothing but such requests. -/
def only (P : Call → Prop) : Contract Unit where
  allowed _ := P
  promised _ _ := True
  next _ _ := ()

/-- Such requests are allowed and change nothing. -/
def Contract.Ignores {σ : Type} (K : Contract σ) (P : Call → Prop) (s : σ) : Prop :=
  ∀ request, P request → K.allowed s request ∧ ∀ answer, K.next s ⟨request, answer⟩ = s

theorem Contract.Ignores.mono {σ : Type} {K : Contract σ} {P Q : Call → Prop} {s : σ}
    (h : K.Ignores P s) (fewer : ∀ request, Q request → P request) : K.Ignores Q s :=
  fun request hq => h request (fewer request hq)

theorem only_ignores {P Q : Call → Prop} (h : ∀ request, Q request → P request) :
    (only P).Ignores Q () :=
  fun request hq => ⟨h request hq, fun _ => rfl⟩

variable {σ α β ε ε₂ : Type} {K : Contract σ} {s : σ} {P Q : Call → Prop} {ds : List Descriptor}

def Program.Only (P : Call → Prop) (p : Program α) : Prop :=
  p.Meets (only P) () fun _ _ => True

def Attempt.Only (P : Call → Prop) (p : Attempt ε α) : Prop :=
  p.Meets (only P) () (fun _ _ => True) fun _ _ => True

/-- What a program that makes such requests returns, it returns where they are allowed. -/
theorem Program.meets_of_only {p : Program α} {post : α → Prop}
    (h : p.Meets (only P) () fun a _ => post a) (allowed : ∀ s request, P request →
      K.allowed s request) : p.Meets K s fun a _ => post a := by
  induction p generalizing s with
  | done a => exact h
  | call request next ih =>
    exact ⟨allowed s request h.1, fun answer _ => ih answer (h.2 answer trivial)⟩

/-- Where such requests change nothing, it leaves the state as it is. -/
theorem Program.meets_of_ignored {p : Program α} {post : α → Prop}
    (h : p.Meets (only P) () fun a _ => post a) (ignores : K.Ignores P s) :
    p.Meets K s fun a s' => post a ∧ s' = s := by
  induction p with
  | done a => exact ⟨h, rfl⟩
  | call request next ih =>
    obtain ⟨allowed, same⟩ := ignores request h.1
    refine ⟨allowed, fun answer _ => ?_⟩
    rw [same]
    exact ih answer (h.2 answer trivial)

namespace Program.Only

theorem meets {p : Program α} (h : p.Only P) (ignores : K.Ignores P s)
    {post : α → σ → Prop} (done : ∀ a, post a s) : p.Meets K s post := by
  refine (meets_of_ignored h ignores).mono ?_
  rintro a _ ⟨_, rfl⟩
  exact done a

theorem mono {p : Program α} (h : p.Only P) (more : ∀ request, P request → Q request) :
    p.Only Q :=
  h.meets (only_ignores more) fun _ => trivial

theorem of_runs {p : Program α} (h : p.Only P) {events : List Event} {a : α}
    (runs : Runs p events a) : ∀ e ∈ events, P e.request := by
  obtain ⟨obeyed, _⟩ := Meets.of_every_run h (fun _ _ => trivial) runs
  exact Contract.obeyed_iff_forall.mp obeyed

theorem pure (a : α) : Only P (Pure.pure a : Program α) := trivial

theorem perform {request : Call} (h : P request) : Only P (Program.perform request) :=
  ⟨h, fun _ _ => trivial⟩

theorem bind {p : Program α} {f : α → Program β} (h : p.Only P) (h' : ∀ a, (f a).Only P) :
    (p >>= f).Only P := by
  rw [Program.Only, meets_bind]
  exact Meets.mono h fun a _ _ => h' a

theorem forM {l : List β} {f : β → Program PUnit} (h : ∀ b ∈ l, (f b).Only P) :
    (l.forM f).Only P := by
  induction l with
  | nil => exact pure _
  | cons b l ih =>
    exact (h b List.mem_cons_self).bind fun _ => ih fun b hb => h b (List.mem_cons_of_mem _ hb)

/-- Leaving a notice is routine. -/
theorem note (notice : Notice) : Only (routine ds) (Journal.note notice : Program Unit) :=
  perform ⟨rfl, List.nil_subset _⟩

end Program.Only

namespace Attempt.Only

theorem run {p : Attempt ε α} (h : p.Only P) : Program.Only P p.run :=
  Program.Meets.mono h fun _ _ _ => trivial

theorem of_run {p : Attempt ε α} (h : Program.Only P p.run) : p.Only P := by
  refine Program.Meets.mono h ?_
  rintro (_ | _) _ _ <;> trivial

theorem meets {p : Attempt ε α} (h : p.Only P) (ignores : K.Ignores P s)
    {ok : α → σ → Prop} {err : ε → σ → Prop} (success : ∀ a, ok a s) (failure : ∀ e, err e s) :
    p.Meets K s ok err := by
  refine h.run.meets ignores ?_
  rintro (e | a)
  · exact failure e
  · exact success a

theorem mono {p : Attempt ε α} (h : p.Only P) (more : ∀ request, P request → Q request) :
    p.Only Q :=
  .of_run (h.run.mono more)

theorem pure (a : α) : Only P (Pure.pure a : Attempt ε α) := trivial

theorem throw (e : ε) : Only P (MonadExcept.throw e : Attempt ε α) := trivial

theorem bind {p : Attempt ε α} {f : α → Attempt ε β} (h : p.Only P)
    (h' : ∀ a, (f a).Only P) : (p >>= f).Only P := by
  rw [Attempt.Only, meets_bind]
  exact Meets.mono h (fun a _ _ => h' a) fun _ _ h => h

theorem always {p : Program α} (h : p.Only P) : (always p : Attempt ε α).Only P :=
  meets_always.mpr h

theorem mapError {p : Attempt ε α} (h : p.Only P) (f : ε → ε₂) : (p.mapError f).Only P :=
  meets_mapError.mpr h

theorem ofReply {p : Program (Reply α)} (h : p.Only P) (meaning : Errno → ε) :
    (ofReply meaning p).Only P := by
  rw [Attempt.Only, meets_ofReply]
  refine Program.Meets.mono h ?_
  rintro (_ | _) _ _ <;> trivial

theorem orElseClean {p : Attempt ε α} {clean : Program Unit} (h : p.Only P) (h' : clean.Only P) :
    (p.orElseClean clean).Only P := by
  rw [Attempt.Only, meets_orElseClean]
  exact Meets.mono h (fun _ _ h => h) fun _ _ _ => h'

end Attempt.Only

/-- What a contract says of a wait: the answers that end it lead to `ok` and `err`, and nothing
else about it matters. -/
structure Contract.Waits (K : Contract σ) (s : σ) (entries : List PollEntry)
    (ok : (Fin entries.length → Bool) → σ → Prop) (err : Errno → σ → Prop) : Prop where
  steady : K.Ignores (routine []) s
  allowed : ∀ signals millis, K.allowed s (.poll signals entries millis)
  again : ∀ signals millis left,
    K.next s ⟨.poll signals entries millis, PollAnswer.interrupted left⟩ = s
  returned : ∀ signals millis flagged,
    K.promised s ⟨.poll signals entries millis, PollAnswer.returned flagged⟩ →
      ok flagged (K.next s ⟨.poll signals entries millis, PollAnswer.returned flagged⟩)
  failed : ∀ signals millis errno,
    K.promised s ⟨.poll signals entries millis, PollAnswer.failed errno⟩ →
      err errno (K.next s ⟨.poll signals entries millis, PollAnswer.failed errno⟩)

/-- What keeps the time of a wait. -/
def Call.isTiming : Call → Prop
  | clock => True
  | signalCount => True
  | _ => False

/-- The same of a wait whose attempts ask for times of one kind. -/
structure Contract.WaitsAsking (K : Contract σ) (s : σ) (asks : Option Nat → Prop)
    (entries : List PollEntry) (ok : (Fin entries.length → Bool) → σ → Prop)
    (err : Errno → σ → Prop) : Prop where
  steady : K.Ignores Call.isTiming s
  allowed : ∀ signals millis, asks millis → K.allowed s (.poll signals entries millis)
  again : ∀ signals millis left,
    K.next s ⟨.poll signals entries millis, PollAnswer.interrupted left⟩ = s
  returned : ∀ signals millis flagged, asks millis →
    K.promised s ⟨.poll signals entries millis, PollAnswer.returned flagged⟩ →
      ok flagged (K.next s ⟨.poll signals entries millis, PollAnswer.returned flagged⟩)
  failed : ∀ signals millis errno, asks millis →
    K.promised s ⟨.poll signals entries millis, PollAnswer.failed errno⟩ →
      err errno (K.next s ⟨.poll signals entries millis, PollAnswer.failed errno⟩)

theorem Call.routine_of_isTiming {request : Call} (h : request.isTiming) : routine ds request := by
  cases request <;> simp_all [isTiming, routine, isRoutine, names]

theorem Contract.Waits.asking {entries : List PollEntry}
    {ok : (Fin entries.length → Bool) → σ → Prop} {err : Errno → σ → Prop}
    (waits : K.Waits s entries ok err) (asks : Option Nat → Prop) :
    K.WaitsAsking s asks entries ok err where
  steady := waits.steady.mono fun _ => Call.routine_of_isTiming
  allowed := fun signals millis _ => waits.allowed signals millis
  again := waits.again
  returned := fun signals millis flagged _ => waits.returned signals millis flagged
  failed := fun signals millis errno _ => waits.failed signals millis errno

namespace Wait

open Program

variable {entries : List PollEntry} {ok : (Fin entries.length → Bool) → σ → Prop}
  {err : Errno → σ → Prop} {failed : Failure → σ → Prop}

/-- A wait without a deadline asks for no time in any attempt. -/
theorem meets_attempts_asking (asks : Option Nat → Prop)
    (waits : K.WaitsAsking s asks entries ok err) {deadline : Option Nat}
    (asked : ∀ millis, (deadline = none → millis = none) → asks millis) (signals : Nat) :
    (attempts entries deadline signals).Meets K s (Attempt.Ends ok err) := by
  induction signals using Nat.strongRecOn with
  | ind signals ih =>
    have attempt : ∀ millis (next : PollAnswer signals entries.length → Program _), asks millis →
        (∀ flagged, next (.returned flagged) = pure (.ok flagged)) →
        (∀ errno, next (.failed errno) = pure (.error errno)) →
        (∀ left, next (.interrupted left) = attempts entries deadline left) →
        (perform (.poll signals entries millis) >>= next).Meets K s (Attempt.Ends ok err) := by
      intro millis next asked returned failed again
      refine meets_bind.mpr ⟨waits.allowed signals millis asked, fun answer promised => ?_⟩
      change Meets K _ (next answer) _
      cases answer with
      | returned flagged =>
        rw [returned]
        exact waits.returned signals millis flagged asked promised
      | failed errno =>
        rw [failed]
        exact waits.failed signals millis errno asked promised
      | interrupted left =>
        rw [again, waits.again]
        exact ih left left.isLt
    rw [attempts, meets_bind]
    cases deadline with
    | none =>
      exact attempt none _ (asked none fun _ => rfl) (fun _ => rfl) (fun _ => rfl) fun _ => rfl
    | some deadline =>
      obtain ⟨allowed, same⟩ := waits.steady .clock trivial
      refine meets_bind.mpr ⟨allowed, fun now _ => ?_⟩
      rw [same]
      exact attempt _ _ (asked _ nofun) (fun _ => rfl) (fun _ => rfl) fun _ => rfl

theorem meets_poll_asking (asks : Option Nat → Prop)
    (waits : K.WaitsAsking s asks entries ok fun errno =>
      failed (.socket (.readiness errno "poll")))
    {timeout : Option Duration} (asked : ∀ millis, (timeout = none → millis = none) → asks millis) :
    (poll entries timeout).Meets K s ok failed := by
  obtain ⟨clockAllowed, clockSame⟩ := waits.steady .clock trivial
  obtain ⟨countAllowed, countSame⟩ := waits.steady .signalCount trivial
  have counted : ∀ deadline, (∀ millis, (deadline = none → millis = none) → asks millis) →
      (perform .signalCount >>= attempts entries deadline).Meets K s
        (Attempt.Ends ok fun errno => failed (.socket (.readiness errno "poll"))) := by
    intro deadline asked
    refine meets_bind.mpr ⟨countAllowed, fun signals _ => ?_⟩
    rw [countSame]
    exact meets_attempts_asking asks waits asked signals
  rw [poll, Attempt.meets_ofReply, meets_bind]
  cases timeout with
  | none => exact counted none fun millis h => asked millis fun _ => h rfl
  | some timeout =>
    refine meets_bind.mpr ⟨clockAllowed, fun now _ => ?_⟩
    rw [clockSame]
    exact counted _ fun millis _ => asked millis nofun

theorem meets_poll
    (waits : K.Waits s entries ok fun errno => failed (.socket (.readiness errno "poll")))
    (timeout : Option Duration) : (poll entries timeout).Meets K s ok failed :=
  meets_poll_asking (fun _ => True) (waits.asking _) fun _ _ => trivial

end Wait

namespace Wait

theorem routine_poll {entries : List PollEntry} (within : ∀ e ∈ entries, e.descriptor ∈ ds)
    (timeout : Option Duration) : (poll entries timeout).Only (routine ds) := by
  have names : entries.map PollEntry.descriptor ⊆ ds := by
    intro d hd
    obtain ⟨e, he, rfl⟩ := List.mem_map.mp hd
    exact within e he
  have waits : (only (routine ds)).Waits () entries (fun _ _ => True) fun _ _ => True := {
    steady := only_ignores fun _ => routine_mono (List.nil_subset _)
    allowed := fun _ _ => ⟨rfl, names⟩
    again := fun _ _ _ => rfl
    returned := fun _ _ _ _ => trivial
    failed := fun _ _ _ _ => trivial }
  exact meets_poll waits timeout

theorem routine_any {descriptors : List Descriptor} (h : descriptors ⊆ ds)
    (timeout : Option Duration) : (any descriptors timeout).Only (routine ds) := by
  refine (routine_poll ?_ timeout).bind fun _ => .pure _
  intro e he
  obtain ⟨d, hd, rfl⟩ := List.mem_map.mp he
  exact h hd

end Wait

/-- A look at a token tells what the kernel flags, and that it is not set where the kernel fails. -/
theorem Cancellation.meets_isRequested {token : Cancellation} {post : Bool → σ → Prop}
    (waits : K.Waits s [⟨token.descriptor, .read⟩] (fun flagged => post (flagged ⟨0, Nat.one_pos⟩))
      fun _ s => K.Ignores (routine []) s ∧ post false s) : token.isRequested.Meets K s post := by
  have look : (Wait.any [token.descriptor] (some .zero)).Meets K s
      (fun found => post found.isSome) fun _ s => K.Ignores (routine []) s ∧ post false s := by
    refine Attempt.meets_bind.mpr ((Wait.meets_poll waits (some .zero)).mono ?_ fun _ _ h => h)
    intro flagged s h
    have only : ((List.finRange 1).find? flagged).isSome = flagged ⟨0, Nat.one_pos⟩ := by
      cases h : flagged ⟨0, Nat.one_pos⟩ <;> simp_all [List.finRange_succ]
    rw [← only] at h
    rw [Attempt.meets_pure, Option.isSome_map]
    exact h
  refine Program.meets_bind.mpr (Attempt.meets_run_iff.mpr (look.mono (fun _ _ h => h) ?_))
  rintro cause s ⟨steady, h⟩
  exact (Program.Only.note _).meets steady fun _ => h

theorem Cancellation.routine_isRequested (token : Cancellation) :
    token.isRequested.Only (routine [token.descriptor]) :=
  meets_isRequested {
    steady := only_ignores fun _ => routine_mono (List.nil_subset _)
    allowed := fun _ _ => ⟨rfl, List.Subset.refl _⟩
    again := fun _ _ _ => rfl
    returned := fun _ _ _ _ => trivial
    failed := fun _ _ _ _ => ⟨only_ignores fun _ => routine_mono (List.nil_subset _), trivial⟩ }

namespace Descriptor

variable {d : Descriptor}

theorem routine_setNonblocking (nonblocking : Bool) :
    (d.setNonblocking nonblocking).Only (routine [d]) := by
  have reads : routine [d] (.readMode d) := ⟨rfl, List.Subset.refl _⟩
  have writes : routine [d] (.writeMode d nonblocking) := ⟨rfl, List.Subset.refl _⟩
  refine (Attempt.Only.ofReply (.perform reads) _).bind fun current => ?_
  split
  · exact .pure _
  · exact .ofReply (.perform writes) _

theorem tunes_getOption (option : SocketOption) : (d.getOption option).Only (tunes d) := by
  have mine : tunes d (.getOption d option) := rfl
  exact .ofReply (.perform mine) _

theorem tunes_setOption (option : SocketOption) (value : Nat) :
    (d.setOption option value).Only (tunes d) := by
  have mine : tunes d (.setOption d option (min value optionLimit)) := rfl
  exact .ofReply (.perform mine) _

theorem tunes_tryOption (option : SocketOption) (value : Nat) (notice : Failure → Notice) :
    (d.tryOption option value notice).Only (tunes d) := by
  refine (tunes_setOption _ _).run.bind ?_
  rintro (cause | _)
  · exact .perform trivial
  · exact .pure _

theorem tunes_tryKeepAlive (k : KeepAlive) (ackTimeoutMs : UInt32) :
    (d.tryKeepAlive k ackTimeoutMs).Only (tunes d) :=
  .forM fun _ _ => tunes_tryOption _ _ _

/-- Raising the receive buffer fails only where the new size cannot be set. -/
theorem meets_raiseReceiveBuffer (ignores : K.Ignores (tunes d) s) {ok : Unit → σ → Prop}
    {err : Failure → σ → Prop} (success : ok () s)
    (failure : ∀ errno, err (.socket (.setOption errno SocketOption.receiveBuffer.name)) s)
    (least : Nat) : (d.raiseReceiveBuffer least).Meets K s ok err := by
  have read : d.receiveBuffer.Only (tunes d) := (tunes_getOption _).bind fun _ => .pure _
  have mine : tunes d (.setOption d .receiveBuffer (min least optionLimit)) := rfl
  have set : Program.Only (tunes d)
      (Program.perform (.setOption d .receiveBuffer (min least optionLimit))) := .perform mine
  have note : ∀ notice, Program.Only (tunes d) (Journal.note notice) :=
    fun _ => .perform trivial
  refine Program.meets_bind.mpr (read.run.meets ignores ?_)
  rintro (cause | current)
  · exact Program.meets_bind.mpr ((note _).meets ignores fun _ => success)
  · dsimp only
    split
    · refine Attempt.meets_ofReply.mpr (set.meets ignores ?_)
      rintro (errno | _)
      · exact failure errno
      · exact success
    · exact success

end Descriptor

end StreamTransport
