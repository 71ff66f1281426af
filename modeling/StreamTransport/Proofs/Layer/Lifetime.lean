import StreamTransport.Proofs.Connect.Descriptors

/-!
# The life of a layer

A layer is made of a socket, asked one thing after the other, and dropped,
which closes it. The first close, be it the drop, closes the watch, shuts the
socket down and closes it. Nothing else ends anything, and after it nothing is
asked of the system any more.
-/

set_option autoImplicit false

namespace StreamTransport

open Program

/-! ### Requests that end something -/

def Call.isEnding : Call → Bool
  | shutdown _ => true
  | close _ => true
  | _ => false

def unending (request : Call) : Prop := request.isEnding = false

def endingsIn (events : List Event) : List Call := (events.map Event.request).filter Call.isEnding

/-- Records the requests that end something. -/
def endings : Contract (List Call) where
  allowed _ _ := True
  promised _ _ := True
  next s e := if e.request.isEnding then s ++ [e.request] else s

theorem endingsIn_append (events rest : List Event) :
    endingsIn (events ++ rest) = endingsIn events ++ endingsIn rest := by
  rw [endingsIn, List.map_append, List.filter_append]
  rfl

theorem endings_after (s : List Call) (events : List Event) :
    endings.after s events = s ++ endingsIn events := by
  induction events generalizing s with
  | nil => simp [Contract.after, endingsIn]
  | cons e rest ih =>
    rw [Contract.after, List.foldl_cons, ← Contract.after, ih]
    cases h : e.request.isEnding with
    | true => simp [endings, endingsIn, h]
    | false => simp [endings, endingsIn, h]

section

variable {s : List Call}

theorem unending_of_routine {ds : List Descriptor} {request : Call} (h : routine ds request) :
    unending request := by
  obtain ⟨h, _⟩ := h
  cases request <;> simp_all [Call.isRoutine, Call.isEnding, unending]

theorem endings_ignores : endings.Ignores unending s := by
  intro request h
  have kept : request.isEnding = false := h
  exact ⟨trivial, fun _ => by simp [endings, kept]⟩

theorem endings_close {d : Descriptor} {post : Unit → List Call → Prop}
    (h : post () (s ++ [.close d])) : d.close.Meets endings s post :=
  ⟨trivial, fun _ _ => h⟩

/-- A run of a program ends what the contract records. -/
theorem endingsIn_of_runs {α : Type} {p : Program α} {post : α → List Call → Prop}
    (h : p.Meets endings [] post) {events : List Event} {a : α} (runs : Runs p events a) :
    post a (endingsIn events) := by
  obtain ⟨_, done⟩ := h.of_every_run (fun _ _ => trivial) runs
  rwa [endings_after] at done

end

namespace Layer

/-! ### What a layer is asked -/

inductive Operation where
  | read (size : Nat)
  | write (data : Bytes)
  | wait (direction : Direction) (timeout : Duration)
  | handle
  | close
  deriving DecidableEq

namespace Operation

def Answer : Operation → Type
  | read _ => Outcome (Progress Bytes)
  | write _ => Outcome (Progress Nat)
  | wait _ _ => Outcome Readiness
  | handle => Option Watch
  | close => Unit

/-- What a closed layer answers. -/
def refusal : (operation : Operation) → operation.Answer
  | read _ => (.error (.stream .closed) : Outcome (Progress Bytes))
  | write _ => (.error (.stream .closed) : Outcome (Progress Nat))
  | wait _ _ => (.error (.stream .closed) : Outcome Readiness)
  | handle => (none : Option Watch)
  | close => ()

end Operation

/-- What a layer answers, and what it is afterwards. -/
def serve (l : Layer) : (operation : Operation) → Program (operation.Answer × Layer)
  | .read size => do return (← (l.read size).run, l)
  | .write data => do return (← (l.write data).run, l)
  | .wait direction timeout => do return (← (l.wait direction timeout).run, l)
  | .handle => return (l.watch?, l)
  | .close => do return ((), ← l.close)

/-- A layer that holds a socket and a watch. -/
structure Holds (l : Layer) (d : Descriptor) (w : Watch) : Prop where
  descriptor : l.stream.descriptor = some d
  watch : l.stream.watch = some w

/-- A layer that has given up both. -/
structure Closed (l : Layer) : Prop where
  descriptor : l.stream.descriptor = none
  watch : l.stream.watch = none

variable {l l' : Layer} {d : Descriptor} {w : Watch} {operation : Operation} {s : List Call}

/-- A layer is made by a request for a watch, and ends nothing. -/
theorem ofSocket_endings (socket : Connection) :
    (ofSocket socket).Meets endings [] (fun l s =>
      (∃ w, l.Holds socket.descriptor ⟨w, socket.descriptor⟩) ∧ s = []) fun _ _ => True := by
  have mode := Descriptor.routine_setNonblocking (d := socket.descriptor) true
  have closes : ∀ d s, (Descriptor.close d).Meets endings s fun _ _ => True :=
    fun _ _ => meets_of_allowed fun _ _ => trivial
  rw [ofSocket, Attempt.meets_bind, RawStream.ofSocket, Attempt.meets_orElseClean]
  simp only [Attempt.meets_bind, Watch.create]
  refine mode.meets (endings_ignores.mono fun _ => unending_of_routine) (fun _ => ?_)
    fun _ => closes _ _
  refine Attempt.meets_ofReply.mpr ⟨trivial, fun (answer : Reply Descriptor) _ => ?_⟩
  cases answer with
  | error errno => exact closes _ _
  | ok w =>
    refine Attempt.meets_orElseClean.mpr (Attempt.meets_ofReply.mpr ⟨trivial, ?_⟩)
    intro (added : Reply Unit) _
    cases added with
    | error errno => exact (closes _ _).mono fun _ _ _ => closes _ _
    | ok _ => exact ⟨⟨w, rfl, rfl⟩, rfl⟩

theorem unending_openDescriptor (stream : RawStream) : stream.openDescriptor.Only unending := by
  unfold RawStream.openDescriptor
  split
  · exact .pure _
  · exact .throw _

theorem unending_read (size : Nat) : (l.read size).Only unending := by
  refine (unending_openDescriptor _).bind fun d => ?_
  have receives : unending (.receive d size) := rfl
  split
  · exact .pure _
  · refine (Attempt.Only.always (.perform receives)).bind fun (answer : Reply Bytes) => ?_
    split
    · exact .pure _
    · exact .pure _
    · split
      · exact .pure _
      · exact .throw _

theorem unending_write (data : Bytes) : (l.write data).Only unending := by
  refine (unending_openDescriptor _).bind fun d => ?_
  have sends : unending (.send d data) := rfl
  split
  · exact .pure _
  · refine (Attempt.Only.always (.perform sends)).bind fun (answer : Reply Nat) => ?_
    split
    · exact .pure _
    · split
      · exact .pure _
      · exact .throw _

theorem unending_wait (direction : Direction) (timeout : Duration) :
    (l.wait direction timeout).Only unending := by
  refine (unending_openDescriptor _).bind fun d => ?_
  have polls : (Wait.poll [⟨d, direction⟩] (some timeout)).Only (routine [d]) :=
    Wait.routine_poll (by simp) _
  exact (polls.mono fun _ => unending_of_routine).bind fun _ => .pure _

/-- But for the close, a layer stays as it is and ends nothing. -/
theorem serve_keeping (keeps : operation ≠ .close) :
    (l.serve operation).Meets endings s fun r s' => r.2 = l ∧ s' = s := by
  have answered : ∀ {α : Type} {p : Attempt Failure α}, p.Only unending →
      Meets endings s (p.run >>= fun a => pure (a, l)) fun r s' => r.2 = l ∧ s' = s := by
    intro α p only
    exact meets_bind.mpr (only.run.meets endings_ignores fun _ => ⟨rfl, rfl⟩)
  cases operation with
  | read size => exact answered (unending_read size)
  | write data => exact answered (unending_write data)
  | wait direction timeout => exact answered (unending_wait direction timeout)
  | handle => exact ⟨rfl, rfl⟩
  | close => exact absurd rfl keeps

theorem shutDown_endings (d : Descriptor) {post : Unit → List Call → Prop}
    (h : post () (s ++ [.shutdown d])) : (RawStream.shutDown d).Meets endings s post := by
  have told : ∀ errno : Errno,
      (if errno = .notConnected then pure () else Journal.note (.shutdownFailed errno) :
        Program Unit).Meets endings (s ++ [.shutdown d]) post := by
    intro errno
    split
    · exact h
    · exact ⟨trivial, fun _ _ => h⟩
  refine meets_bind.mpr ⟨trivial, fun (answer : Reply Unit) _ => ?_⟩
  cases answer with
  | ok _ => exact h
  | error errno => exact told errno

/-- The close ends the watch and the socket. -/
theorem Holds.serve_close (h : l.Holds d w) :
    (l.serve .close).Meets endings s fun r s' =>
      r.2.Closed ∧ s' = s ++ [.close w.descriptor, .shutdown d, .close d] := by
  have closes : l.stream.close.Meets endings s fun stream s' =>
      Closed ⟨stream⟩ ∧ s' = s ++ [.close w.descriptor, .shutdown d, .close d] := by
    simp only [RawStream.close, h.watch, h.descriptor, Watch.close, meets_bind]
    refine endings_close (shutDown_endings d (endings_close ?_))
    simp only [meets_pure, List.append_assoc]
    exact ⟨⟨rfl, rfl⟩, rfl⟩
  exact meets_bind.mpr (meets_bind.mpr closes)

/-- A closed layer asks nothing of the system and stays as it is. -/
theorem Closed.serve_eq (h : l.Closed) (operation : Operation) :
    l.serve operation = pure (operation.refusal, l) := by
  have closed : l.stream.openDescriptor = throw (.stream .closed) := by
    rw [RawStream.openDescriptor, h.descriptor]
  cases operation with
  | read size =>
    simp only [serve, Layer.read, RawStream.read, closed]
    rfl
  | write data =>
    simp only [serve, Layer.write, RawStream.write, closed]
    rfl
  | wait direction timeout =>
    simp only [serve, Layer.wait, RawStream.wait, closed]
    rfl
  | handle =>
    simp only [serve, watch?, h.watch]
    rfl
  | close =>
    rcases l with ⟨⟨_, _, family, kind⟩⟩
    obtain ⟨rfl, rfl⟩ := h
    rfl

/-! ### Histories of operations -/

/-- An operation, what was asked of the system for it, and the answer. -/
structure Visit where
  operation : Operation
  events : List Event
  answer : operation.Answer

/-- Operations on a layer, one after the other. -/
inductive History : Layer → List Visit → Layer → Prop
  | nil (l : Layer) : History l [] l
  | cons {l l' l'' : Layer} {v : Visit} {visits : List Visit}
      (runs : Runs (l.serve v.operation) v.events (v.answer, l')) (rest : History l' visits l'') :
      History l (v :: visits) l''

def eventsOf (visits : List Visit) : List Event := visits.flatMap Visit.events

/-- The system was not asked, and the answer is that of a closed layer. -/
structure Visit.Refused (v : Visit) : Prop where
  unasked : v.events = []
  answer : v.answer = v.operation.refusal

/-- The requests by which a watch and the socket it looks at are ended. -/
def parting (w d : Descriptor) : List Call := [.close w, .shutdown d, .close d]

variable {visits before after : List Visit} {v : Visit} {last dropped : Layer}
  {events drop : List Event}

theorem History.split (history : History l (before ++ v :: after) last) :
    ∃ l' l'', History l before l' ∧ Runs (l'.serve v.operation) v.events (v.answer, l'') ∧
      History l'' after last := by
  induction before generalizing l with
  | nil =>
    cases history with
    | cons runs rest => exact ⟨l, _, .nil l, runs, rest⟩
  | cons u before ih =>
    cases history with
    | cons runs rest =>
      obtain ⟨l', l'', first, here, later⟩ := ih rest
      exact ⟨l', l'', .cons runs first, here, later⟩

theorem keeping_history (history : History l visits last)
    (keeps : ∀ v ∈ visits, v.operation ≠ .close) :
    last = l ∧ endingsIn (eventsOf visits) = [] := by
  induction history with
  | nil l => exact ⟨rfl, rfl⟩
  | @cons l l' l'' v visits runs rest ih =>
    obtain ⟨here, later⟩ := List.forall_mem_cons.mp keeps
    obtain ⟨same, nothing⟩ := endingsIn_of_runs (serve_keeping here) runs
    obtain rfl : l' = l := same
    obtain ⟨unchanged, nothing'⟩ := ih later
    refine ⟨unchanged, ?_⟩
    rw [eventsOf, List.flatMap_cons, endingsIn_append, nothing]
    exact nothing'

theorem Closed.visit (h : l.Closed) (runs : Runs (l.serve v.operation) v.events (v.answer, l')) :
    v.Refused ∧ l' = l := by
  rw [h.serve_eq] at runs
  generalize outcome : (v.answer, l') = r at runs
  generalize none : v.events = asked at runs
  cases runs
  obtain ⟨answer, same⟩ := Prod.mk.inj outcome
  exact ⟨⟨none, answer⟩, same⟩

theorem Closed.history (h : l.Closed) (history : History l visits last) :
    (∀ v ∈ visits, v.Refused) ∧ last = l := by
  induction history with
  | nil l => exact ⟨List.forall_mem_nil _, rfl⟩
  | cons runs rest ih =>
    obtain ⟨here, rfl⟩ := h.visit runs
    obtain ⟨later, same⟩ := ih h
    exact ⟨List.forall_mem_cons.mpr ⟨here, later⟩, same⟩

/-- A drop is a close. -/
theorem runs_serve_close (drops : Runs l.close drop dropped) :
    Runs (l.serve .close) drop ((), dropped) :=
  drops.map rfl

theorem Closed.drop_eq (h : l.Closed) (drops : Runs l.close drop dropped) : drop = [] :=
  (h.visit (v := ⟨.close, drop, ()⟩) (runs_serve_close drops)).1.unasked

theorem Holds.close_endings (h : l.Holds d w) {answer : Operation.close.Answer}
    (runs : Runs (l.serve .close) events (answer, l')) :
    l'.Closed ∧ endingsIn events = parting w.descriptor d :=
  endingsIn_of_runs h.serve_close runs

theorem eventsOf_append (visits rest : List Visit) :
    eventsOf (visits ++ rest) = eventsOf visits ++ eventsOf rest :=
  List.flatMap_append

theorem eventsOf_eq_nil (h : ∀ v ∈ visits, v.Refused) : eventsOf visits = [] :=
  List.flatMap_eq_nil_iff.mpr fun v hv => (h v hv).unasked

/-- Visits are cut at the first close, if one is among them. -/
theorem first_close_or_keeps (visits : List Visit) :
    (∃ before v after, visits = before ++ v :: after ∧ (∀ u ∈ before, u.operation ≠ .close) ∧
      v.operation = .close) ∨ ∀ v ∈ visits, v.operation ≠ .close := by
  cases found : visits.find? fun v => v.operation = .close with
  | none => exact .inr fun v hv => by simpa using List.find?_eq_none.mp found v hv
  | some v =>
    obtain ⟨closes, before, after, rfl, keeps⟩ := List.find?_eq_some_iff_append.mp found
    exact .inl ⟨before, v, after, rfl, fun u hu => by simpa using keeps u hu, by simpa using closes⟩

/-- The first close of a history is the only visit that ends anything. -/
theorem Holds.first_close (h : l.Holds d w) (history : History l (before ++ v :: after) last)
    (keeps : ∀ u ∈ before, u.operation ≠ .close) (closes : v.operation = .close) :
    endingsIn (eventsOf before) = [] ∧ endingsIn v.events = parting w.descriptor d ∧
      (∀ u ∈ after, u.Refused) ∧ last.Closed := by
  obtain ⟨l', l'', first, here, later⟩ := history.split
  obtain ⟨rfl, nothing⟩ := keeping_history first keeps
  rcases v with ⟨operation, events, answer⟩
  obtain rfl : operation = .close := closes
  obtain ⟨closed, parted⟩ := h.close_endings here
  obtain ⟨refused, rfl⟩ := closed.history later
  exact ⟨nothing, parted, refused, closed⟩

/-- A layer has its socket exactly as long as its watch. -/
theorem Holds.together (h : l.Holds d w) (history : History l visits last) :
    last.stream.descriptor.isSome = last.stream.watch.isSome := by
  rcases first_close_or_keeps visits with ⟨before, v, after, rfl, keeps, closes⟩ | keeps
  · obtain ⟨_, _, _, closed⟩ := h.first_close history keeps closes
    rw [closed.descriptor, closed.watch]
    rfl
  · obtain ⟨rfl, _⟩ := keeping_history history keeps
    rw [h.descriptor, h.watch]
    rfl

/-- How a layer ends that holds a socket and its watch: at the first close, or where it is dropped
without one. -/
structure Ends (d w : Descriptor) (visits : List Visit) (last : Layer) (drop : List Event) :
    Prop where
  once : endingsIn (eventsOf visits ++ drop) = parting w d
  atDrop : (∀ v ∈ visits, v.operation ≠ .close) →
    last.Holds d ⟨w, d⟩ ∧ endingsIn drop = parting w d
  atFirst : ∀ before v after, visits = before ++ v :: after →
    (∀ u ∈ before, u.operation ≠ .close) → v.operation = .close →
    endingsIn v.events = parting w d ∧ (∀ u ∈ after, u.Refused) ∧ drop = []
  closed : (∃ v ∈ visits, v.operation = .close) →
    ∀ operation, last.serve operation = pure (operation.refusal, last)

theorem Holds.ends {w : Descriptor} (h : l.Holds d ⟨w, d⟩) (history : History l visits last)
    (drops : Runs last.close drop dropped) : Ends d w visits last drop := by
  have atFirst : ∀ before v after, visits = before ++ v :: after →
      (∀ u ∈ before, u.operation ≠ .close) → v.operation = .close →
      endingsIn v.events = parting w d ∧ (∀ u ∈ after, u.Refused) ∧ drop = [] := by
    rintro before v after rfl keeps closes
    obtain ⟨_, parted, refused, closed⟩ := h.first_close history keeps closes
    exact ⟨parted, refused, closed.drop_eq drops⟩
  -- either a visit closes the layer and the drop finds it closed, or the drop closes it
  rcases first_close_or_keeps visits with ⟨before, v, after, rfl, keeps, closes⟩ | keeps
  · obtain ⟨nothing, parted, refused, closed⟩ := h.first_close history keeps closes
    refine ⟨?_, ?_, atFirst, fun _ => closed.serve_eq⟩
    · have here : eventsOf (v :: after) = v.events ++ eventsOf after := rfl
      rw [eventsOf_append, here, eventsOf_eq_nil refused, closed.drop_eq drops]
      simp only [List.append_nil, endingsIn_append, nothing, List.nil_append]
      exact parted
    · exact fun never => absurd closes (never v (by simp))
  · obtain ⟨rfl, nothing⟩ := keeping_history history keeps
    obtain ⟨_, parted⟩ := h.close_endings (runs_serve_close drops)
    refine ⟨?_, fun _ => ⟨h, parted⟩, atFirst, fun ⟨v, hv, closes⟩ => absurd closes (keeps v hv)⟩
    rw [endingsIn_append, nothing]
    exact parted

/-- A layer that is made of a socket holds it and a watch of its own. -/
theorem holds_of_runs {socket : Connection} {build : List Event} {opened : Set Descriptor}
    (built : Runs (ofSocket socket).run build (.ok l)) (mine : socket.descriptor ∈ opened)
    (fresh : Descriptors.Fresh opened build) :
    ∃ w, w ≠ socket.descriptor ∧ l.Holds socket.descriptor ⟨w, socket.descriptor⟩ ∧
      endingsIn build = [] := by
  obtain ⟨⟨w, holds⟩, nothing⟩ := endingsIn_of_runs (ofSocket_endings socket) built
  have accounts : Descriptors.Accounts (opened \ {socket.descriptor}) [socket.descriptor]
      (ofSocket socket).run (Descriptors.kept Descriptors.ofLayer) := by
    refine Descriptors.accounts_of_meets (Descriptors.fits_singleton (by simp)) ?_
    refine Attempt.meets_run_iff.mpr ?_
    change Attempt.Meets _ (socket.descriptor ::ₘ 0) _ _ _
    exact meets_ofSocket socket (fun _ => rfl) fun _ => rfl
  have same : opened \ {socket.descriptor} ∪ {d | d ∈ [socket.descriptor]} = opened := by
    simpa using mine
  have both := (accounts build (.ok l) built (same.symm ▸ fresh)).nodup
  have apart : w ≠ socket.descriptor := by
    simpa [Descriptors.kept, Descriptors.ofLayer, holds.watch, holds.descriptor] using both
  exact ⟨w, apart, holds, nothing⟩

/-- Over the whole life of a layer its watch and its socket are closed once each, and the socket is
shut down once: at the first close, or where the layer is dropped without one. Until then the layer
has both, and after it none: it asks nothing of the system any more, refuses what moves or waits for
bytes, and stays as it is. -/
theorem ended_once {socket : Connection} {build : List Event} {opened : Set Descriptor}
    (built : Runs (ofSocket socket).run build (.ok l)) (mine : socket.descriptor ∈ opened)
    (fresh : Descriptors.Fresh opened build) (history : History l visits last)
    (drops : Runs last.close drop dropped) :
    ∃ w, w ≠ socket.descriptor ∧
      (∀ reached l', History l reached l' →
        l'.stream.descriptor.isSome = l'.stream.watch.isSome) ∧
      endingsIn (build ++ eventsOf visits ++ drop) = parting w socket.descriptor ∧
      Ends socket.descriptor w visits last drop ∧
      (Failure.stream .closed).kind = .notConnected := by
  obtain ⟨w, apart, holds, nothing⟩ := holds_of_runs built mine fresh
  have ends := holds.ends history drops
  refine ⟨w, apart, fun _ _ reached => holds.together reached, ?_, ends, rfl⟩
  rw [List.append_assoc, endingsIn_append, nothing]
  exact ends.once

/-- A layer that is read from, closed, read from and closed again, and dropped. -/
theorem ended_once_closed_twice :
    ∃ build l visits last drop dropped,
      Runs (ofSocket ⟨4, .unix, .unix⟩).run build (.ok l) ∧ Descriptors.Fresh {4} build ∧
      History l visits last ∧ Runs last.close drop dropped ∧
      visits.map Visit.operation = [.read 1, .close, .read 0, .close] ∧
      ∃ w, w ≠ 4 ∧ endingsIn (build ++ eventsOf visits ++ drop) = parting w 4 ∧
        Ends 4 w visits last drop := by
  obtain ⟨build, built, fresh⟩ : ∃ build, Runs (ofSocket ⟨4, .unix, .unix⟩).run build
      (.ok ⟨⟨some 4, some ⟨5, 4⟩, .unix, .unix⟩⟩) ∧ Descriptors.Fresh {4} build := by
    refine ⟨[⟨.readMode 4, (.ok true : Reply Bool)⟩, ⟨.watchCreate, (.ok 5 : Reply Descriptor)⟩,
      ⟨.watchAdd 5 4 { read := true, close := true }, (.ok () : Reply Unit)⟩],
      .call _ (.call _ (.call _ (.done _))), ?_⟩
    have new : ∀ d, (.ok 5 : Reply Descriptor).toOption = some d → d ≠ 4 := by
      rintro _ ⟨⟩
      decide
    simpa [Descriptors.Fresh, Event.openAfter, Event.opened?, Call.closed?] using new
  have closed : Closed ⟨⟨none, none, .unix, .unix⟩⟩ := ⟨rfl, rfl⟩
  have refused : ∀ operation, Runs (serve ⟨⟨none, none, .unix, .unix⟩⟩ operation) []
      (operation.refusal, ⟨⟨none, none, .unix, .unix⟩⟩) := by
    intro operation
    rw [closed.serve_eq]
    exact .done _
  have history : History ⟨⟨some 4, some ⟨5, 4⟩, .unix, .unix⟩⟩
      [⟨.read 1, [⟨.receive 4 1, (.ok [97] : Reply Bytes)⟩],
          (.ok (.moved [97]) : Outcome (Progress Bytes))⟩,
        ⟨.close, [⟨.close 5, ()⟩, ⟨.shutdown 4, (.ok () : Reply Unit)⟩, ⟨.close 4, ()⟩], ()⟩,
        ⟨.read 0, [], Operation.refusal _⟩, ⟨.close, [], ()⟩]
      ⟨⟨none, none, .unix, .unix⟩⟩ := by
    refine .cons (.call _ (.done _)) (.cons (.call _ (.call _ (.call _ (.done _)))) ?_)
    exact .cons (refused _) (.cons (refused _) (.nil _))
  have drops : Runs (close ⟨⟨none, none, .unix, .unix⟩⟩) [] ⟨⟨none, none, .unix, .unix⟩⟩ := .done _
  obtain ⟨w, apart, _, once, ends, _⟩ := ended_once built (by simp) fresh history drops
  exact ⟨_, _, _, _, _, _, built, fresh, history, drops, rfl, w, apart, once, ends⟩

end Layer
end StreamTransport
