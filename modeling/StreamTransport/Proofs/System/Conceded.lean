import StreamTransport.Proofs.System.Signs

/-!
# Options that are only tried

Some options are set as well as they can be: where the kernel refuses one, that
is noted, and nothing else comes of it. So a run in which some are refused leads
to one in which all are conceded, which makes the same requests but for the
notices, and ends alike. Runs that differ in nothing but in what is refused so
lead to one and the same run.
-/

set_option autoImplicit false

namespace StreamTransport

open Program

/-- Options that a connection does without where they cannot be set. -/
def SocketOption.isTried : SocketOption → Bool
  | noDelay => true
  | keepAlive => true
  | receiveBuffer => false
  | keepIdle => true
  | keepInterval => true
  | keepCount => true
  | userTimeout => true
  | pendingError => false

/-- Notices that such an option could not be set. -/
def Notice.isRefusal : Notice → Bool
  | noDelayFailed _ => true
  | optionFailed _ => true
  | _ => false

/-- The event as it is where options that are only tried are set, and so no refusal is noted. -/
def Event.conceded? : Event → Option Event
  | ⟨.setOption d option value, answer⟩ =>
    some ⟨.setOption d option value, if option.isTried then .ok () else answer⟩
  | ⟨.note notice, answer⟩ => if notice.isRefusal then none else some ⟨.note notice, answer⟩
  | e => some e

def conceded (events : List Event) : List Event := events.filterMap Event.conceded?

/-- Requests that do not depend on what is conceded. -/
def Call.isFirm : Call → Prop
  | setOption _ option _ => option.isTried = false
  | note notice => notice.isRefusal = false
  | _ => True

theorem Event.conceded?_of_isFirm {e : Event} (firm : e.request.isFirm) :
    e.conceded? = some e := by
  obtain ⟨request, answer⟩ := e
  cases request <;> simp_all [Event.conceded?, Call.isFirm]

theorem conceded_append (first rest : List Event) :
    conceded (first ++ rest) = conceded first ++ conceded rest :=
  List.filterMap_append

theorem conceded_eq_self {events : List Event} (firm : ∀ e ∈ events, e.request.isFirm) :
    conceded events = events := by
  induction events with
  | nil => rfl
  | cons e rest ih =>
    rw [conceded, List.filterMap_cons_some (Event.conceded?_of_isFirm (firm e List.mem_cons_self))]
    exact congrArg (e :: ·) (ih fun e there => firm e (List.mem_cons_of_mem _ there))

theorem AnsweredAlike.refl (events : List Event) : AnsweredAlike events events := by
  rintro before request answer answer' after after' rfl same
  obtain ⟨here, -⟩ := List.cons.inj (List.append_cancel_left same)
  exact eq_of_heq (Event.mk.inj here).2

variable {α β : Type}

namespace Program

/-- What a run comes to where all is conceded is a run that ends alike. -/
def Concedes (p : Program α) : Prop :=
  ∀ events a, Runs p events a → Runs p (conceded events) a

/-- Two runs that differ in nothing but in what is refused end alike. -/
theorem Concedes.eq_of_answeredAlike {p : Program α} (h : p.Concedes) {events events' : List Event}
    {a a' : α} (runs : Runs p events a) (runs' : Runs p events' a')
    (alike : AnsweredAlike (conceded events) (conceded events')) :
    conceded events = conceded events' ∧ a = a' :=
  (h _ _ runs).eq_of_answeredAlike (h _ _ runs') alike

namespace Concedes

theorem pure (a : α) : Concedes (Pure.pure a : Program α) := by
  rintro _ _ ⟨⟩
  exact .done a

theorem bind {p : Program α} {f : α → Program β} (h : p.Concedes) (h' : ∀ a, (f a).Concedes) :
    (p >>= f).Concedes := by
  intro events b runs
  obtain ⟨first, a, rest, rfl, here, there⟩ := runs_bind_iff.mp runs
  rw [conceded_append]
  exact (h _ _ here).bind (h' a _ _ there)

theorem map {p : Program α} (h : p.Concedes) (f : α → β) : (f <$> p).Concedes := by
  rw [map_eq_pure_bind]
  exact h.bind fun _ => pure _

/-- Where all requests are firm there is nothing to concede. -/
theorem of_only {p : Program α} (h : p.Only Call.isFirm) : p.Concedes := by
  intro events a runs
  rwa [conceded_eq_self (h.of_runs runs)]

theorem forM {l : List β} {f : β → Program PUnit} (h : ∀ b ∈ l, (f b).Concedes) :
    (l.forM f).Concedes := by
  induction l with
  | nil => exact pure _
  | cons b l ih =>
    exact (h b List.mem_cons_self).bind fun _ => ih fun b hb => h b (List.mem_cons_of_mem _ hb)

end Concedes
end Program

namespace Attempt

open Program

variable {ε : Type} {p : Attempt ε α}

theorem concedes_bind {f : α → Attempt ε β} (h : p.run.Concedes)
    (h' : ∀ a, (f a).run.Concedes) : (p >>= f).run.Concedes := by
  refine Concedes.bind h ?_
  rintro (e | a)
  · exact .pure _
  · exact h' a

theorem concedes_always {p : Program α} (h : p.Concedes) :
    (always p : Attempt ε α).run.Concedes :=
  h.map _

theorem concedes_orElseClean {clean : Program Unit} (h : p.run.Concedes) (h' : clean.Concedes) :
    (p.orElseClean clean).run.Concedes := by
  refine Concedes.bind h ?_
  rintro (e | a)
  · exact h'.bind fun _ => .pure _
  · exact .pure _

end Attempt

/-! ### Waits are firm, and options are only tried -/

theorem Wait.firm_any (descriptors : List Descriptor) (timeout : Option Duration) :
    (any descriptors timeout).Only Call.isFirm := by
  have waits : (only Call.isFirm).WaitsAsking () (fun _ => True) (readable descriptors)
      (fun _ _ => True) fun _ _ => True := {
    steady := only_ignores fun request timing => by cases request <;> trivial
    allowed := fun _ _ _ => trivial
    again := fun _ _ _ => rfl
    returned := fun _ _ _ _ _ => trivial
    failed := fun _ _ _ _ _ => trivial }
  have polled : (poll (readable descriptors) timeout).Only Call.isFirm :=
    meets_poll_asking _ waits fun _ _ => trivial
  exact polled.bind fun _ => .pure _

theorem Cancellation.firm_isRequested (token : Cancellation) :
    token.isRequested.Only Call.isFirm := by
  refine (Wait.firm_any _ _).run.bind ?_
  rintro (cause | found)
  · have firm : (Call.note (.cancelPollFailed cause)).isFirm := rfl
    exact (Program.Only.perform firm).bind fun _ => .pure _
  · exact .pure _

namespace Descriptor

variable {d : Descriptor}

/-- The receive buffer is not only tried. -/
theorem firm_raiseReceiveBuffer (least : Nat) :
    (d.raiseReceiveBuffer least).Only Call.isFirm := by
  have get : (Call.getOption d .receiveBuffer).isFirm := trivial
  have set : (Call.setOption d .receiveBuffer (min least optionLimit)).isFirm := rfl
  have read : d.receiveBuffer.Only Call.isFirm :=
    (Attempt.Only.ofReply (.perform get) _).bind fun _ => .pure _
  refine .of_run (read.run.bind ?_)
  rintro (cause | current)
  · have note : (Call.note (.receiveBufferUnread cause)).isFirm := rfl
    exact (Program.Only.perform note).bind fun _ => .pure _
  · dsimp only
    split
    · exact (Attempt.Only.ofReply (.perform set) _).run
    · exact .pure _

/-- An option that is tried comes to its being set, as if it had not been refused. -/
theorem concedes_tryOption {option : SocketOption} (tried : option.isTried) (value : Nat)
    {notice : Failure → Notice} (refusal : ∀ cause, (notice cause).isRefusal) :
    (d.tryOption option value notice).Concedes := by
  have granted : Runs (d.tryOption option value notice)
      [⟨.setOption d option (min value optionLimit), (.ok () : Reply Unit)⟩] () :=
    .call _ (.done _)
  intro events _ runs
  suffices h : conceded events =
      [⟨.setOption d option (min value optionLimit), (.ok () : Reply Unit)⟩] by rwa [h]
  cases runs with
  | call answer rest =>
    cases (answer : Reply Unit) with
    | ok _ =>
      cases rest
      simp [conceded, Event.conceded?, tried]
    | error errno =>
      rcases rest with _ | ⟨_, ⟨⟩⟩
      simp [conceded, Event.conceded?, tried, refusal]

theorem isTried_of_mem_keepAliveOptions {k : KeepAlive} {ackTimeoutMs : UInt32}
    {option : SocketOption × Nat} (there : option ∈ keepAliveOptions k ackTimeoutMs) :
    option.1.isTried := by
  cases on : k.enabled <;> simp [keepAliveOptions, on] at there
  · rcases there with rfl | rfl <;> rfl
  · rcases there with rfl | rfl | rfl | rfl | rfl <;> rfl

theorem concedes_tryKeepAlive (k : KeepAlive) (ackTimeoutMs : UInt32) :
    (d.tryKeepAlive k ackTimeoutMs).Concedes :=
  .forM fun _ there => concedes_tryOption (isTried_of_mem_keepAliveOptions there) _ fun _ => rfl

end Descriptor

end StreamTransport
