import StreamTransport.Proofs.System.Routine

/-!
# What a run shows

A run in outline: what the system was asked and what it answered, but not the
clock, the notices, and the attempts of a wait that a signal interrupts. A wait
shows once, with what it ended with. What a program shows is built up from what
its parts show, and a contract records it.
-/

set_option autoImplicit false

namespace StreamTransport

/-- A request with its answer. Of a wait the attempt that ended it, with what was flagged. -/
inductive Sign where
  | resolve (host : String) (port : Option UInt16) (answer : Outcome Resolution)
  | socket (family : Family) (sockType protocol : Int) (answer : Reply Descriptor)
  | connect (d : Descriptor) (address : Bytes) (answer : Reply Unit)
  | readMode (d : Descriptor) (answer : Reply Bool)
  | writeMode (d : Descriptor) (nonblocking : Bool) (answer : Reply Unit)
  | localName (d : Descriptor) (answer : Reply KernelAddress)
  | peerName (d : Descriptor) (answer : Reply KernelAddress)
  | getOption (d : Descriptor) (option : SocketOption) (answer : Reply Int)
  | setOption (d : Descriptor) (option : SocketOption) (value : Nat) (answer : Reply Unit)
  | watchCreate (answer : Reply Descriptor)
  | watchAdd (watch target : Descriptor) (interest : Interest) (answer : Reply Unit)
  | watchModify (watch target : Descriptor) (interest : Interest) (answer : Reply Unit)
  | watchRemove (watch target : Descriptor) (answer : Reply Unit)
  | poll (entries : List PollEntry) (millis : Option Nat) (answer : Reply (List Bool))
  | receive (d : Descriptor) (size : Nat) (answer : Reply Bytes)
  | peek (d : Descriptor) (answer : Reply Unit)
  | send (d : Descriptor) (data : Bytes) (answer : Reply Nat)
  | shutdown (d : Descriptor) (answer : Reply Unit)
  | close (d : Descriptor)
  | eventCreate (answer : Reply Descriptor)
  | eventSignal (d : Descriptor) (answer : Reply Unit)

def Event.sign? : Event → Option Sign
  | ⟨.clock, _⟩ => none
  | ⟨.resolve host port, answer⟩ => some (.resolve host port answer)
  | ⟨.socket family sockType protocol, answer⟩ => some (.socket family sockType protocol answer)
  | ⟨.connect d address, answer⟩ => some (.connect d address answer)
  | ⟨.readMode d, answer⟩ => some (.readMode d answer)
  | ⟨.writeMode d nonblocking, answer⟩ => some (.writeMode d nonblocking answer)
  | ⟨.localName d, answer⟩ => some (.localName d answer)
  | ⟨.peerName d, answer⟩ => some (.peerName d answer)
  | ⟨.getOption d option, answer⟩ => some (.getOption d option answer)
  | ⟨.setOption d option value, answer⟩ => some (.setOption d option value answer)
  | ⟨.watchCreate, answer⟩ => some (.watchCreate answer)
  | ⟨.watchAdd watch target interest, answer⟩ => some (.watchAdd watch target interest answer)
  | ⟨.watchModify watch target interest, answer⟩ => some (.watchModify watch target interest answer)
  | ⟨.watchRemove watch target, answer⟩ => some (.watchRemove watch target answer)
  | ⟨.signalCount, _⟩ => none
  | ⟨.poll _ entries millis, answer⟩ =>
    match (answer : PollAnswer _ entries.length) with
    | .returned flagged => some (.poll entries millis (.ok (List.ofFn flagged)))
    | .failed errno => some (.poll entries millis (.error errno))
    | .interrupted _ => none
  | ⟨.receive d size, answer⟩ => some (.receive d size answer)
  | ⟨.peek d, answer⟩ => some (.peek d answer)
  | ⟨.send d data, answer⟩ => some (.send d data answer)
  | ⟨.shutdown d, answer⟩ => some (.shutdown d answer)
  | ⟨.close d, _⟩ => some (.close d)
  | ⟨.eventCreate, answer⟩ => some (.eventCreate answer)
  | ⟨.eventSignal d, answer⟩ => some (.eventSignal d answer)
  | ⟨.note _, _⟩ => none

def signs (events : List Event) : List Sign := events.filterMap Event.sign?

theorem signs_append (first rest : List Event) :
    signs (first ++ rest) = signs first ++ signs rest :=
  List.filterMap_append

theorem signs_cons (e : Event) (rest : List Event) :
    signs (e :: rest) = e.sign?.toList ++ signs rest := by
  cases h : e.sign? <;> simp [signs, h]

/-- Records what is shown. -/
def showing : Contract (List Sign) where
  allowed _ _ := True
  promised _ _ := True
  next shown e := shown ++ e.sign?.toList

theorem showing_after (shown : List Sign) (events : List Event) :
    showing.after shown events = shown ++ signs events := by
  induction events generalizing shown with
  | nil => simp [Contract.after, signs]
  | cons e rest ih =>
    change showing.after (showing.next shown e) rest = _
    rw [ih, signs_cons, ← List.append_assoc]
    rfl

namespace Program

variable {α β : Type} {p : Program α} {a : α} {shown first rest : List Sign}

/-- Some run of the program shows this and ends so. -/
def Shows (p : Program α) (shown : List Sign) (a : α) : Prop :=
  ∃ events, Runs p events a ∧ signs events = shown

theorem Runs.shows {events : List Event} (runs : Runs p events a) : p.Shows (signs events) a :=
  ⟨events, runs, rfl⟩

/-- What a program leads the record to holds of whatever it shows. -/
theorem Meets.of_shows {post : α → List Sign → Prop} (h : p.Meets showing [] post)
    (shows' : p.Shows shown a) : post a shown := by
  obtain ⟨events, runs, rfl⟩ := shows'
  obtain ⟨_, ended⟩ := h.of_every_run (fun _ _ => trivial) runs
  rw [showing_after] at ended
  exact ended

theorem Shows.pure (a : α) : (Pure.pure a : Program α).Shows [] a :=
  ⟨[], .done a, rfl⟩

theorem Shows.bind {f : α → Program β} {b : β} (h : p.Shows first a) (h' : (f a).Shows rest b) :
    (p >>= f).Shows (first ++ rest) b := by
  obtain ⟨events, runs, rfl⟩ := h
  obtain ⟨others, runs', rfl⟩ := h'
  exact ⟨events ++ others, runs.bind runs', signs_append _ _⟩

/-- What shows nothing can go on unseen. -/
theorem Shows.map {f : α → Program β} {b : β} (h : p.Shows shown a) (h' : (f a).Shows [] b) :
    (p >>= f).Shows shown b := by
  simpa using h.bind h'

theorem Shows.perform (request : Call) (answer : request.Answer) :
    (Program.perform request).Shows (Event.sign? ⟨request, answer⟩).toList answer := by
  refine ⟨[⟨request, answer⟩], .call answer (.done answer), ?_⟩
  rw [signs_cons]
  exact List.append_nil _

theorem Shows.note (notice : Notice) : (Journal.note notice : Program Unit).Shows [] () :=
  .perform (.note notice) ()

theorem Shows.close (d : Descriptor) : d.close.Shows [.close d] () :=
  .perform (.close d) ()

end Program

namespace Attempt

open Program

variable {ε ε₂ α β : Type} {p : Attempt ε α} {shown first rest : List Sign}

theorem shows_bind {f : α → Attempt ε β} {a : α} {r : Except ε β}
    (h : p.run.Shows first (.ok a)) (h' : (f a).run.Shows rest r) :
    (p >>= f).run.Shows (first ++ rest) r :=
  h.bind h'

theorem shows_always {p : Program α} {a : α} (h : p.Shows shown a) :
    (always p : Attempt ε α).run.Shows shown (.ok a) :=
  h.map (.pure _)

theorem shows_ofReply {p : Program (Reply α)} {answer : Reply α} (h : p.Shows shown answer)
    (meaning : Errno → ε) : (ofReply meaning p).run.Shows shown (answer.mapError meaning) :=
  h.map (.pure _)

theorem shows_mapError {r : Except ε α} (h : p.run.Shows shown r) (f : ε → ε₂) :
    (p.mapError f).run.Shows shown (r.mapError f) :=
  h.map (.pure _)

theorem shows_orElseClean_ok {clean : Program Unit} {a : α} (h : p.run.Shows shown (.ok a)) :
    (p.orElseClean clean).run.Shows shown (.ok a) :=
  h.map (.pure _)

end Attempt

section

variable {shown : List Sign}

theorem showing_perform {request : Call} {post : request.Answer → List Sign → Prop} :
    (Program.perform request).Meets showing shown post ↔
      ∀ answer, post answer (shown ++ (Event.sign? ⟨request, answer⟩).toList) := by
  constructor
  · exact fun h answer => h.2 answer trivial
  · exact fun h => ⟨trivial, fun answer _ => h answer⟩

theorem showing_note {notice : Notice} {post : Unit → List Sign → Prop} :
    (Journal.note notice : Program Unit).Meets showing shown post ↔ post () shown := by
  refine Iff.trans (@showing_perform shown (.note notice) post) ?_
  simp only [Event.sign?, Option.toList_none, List.append_nil]
  exact ⟨fun h => h (), fun h _ => h⟩

theorem showing_close {d : Descriptor} {post : Unit → List Sign → Prop} :
    d.close.Meets showing shown post ↔ post () (shown ++ [.close d]) := by
  refine Iff.trans (@showing_perform shown (.close d) post) ?_
  exact ⟨fun h => h (), fun h _ => h⟩

/-! ### Waits -/

/-- A wait for several descriptors finds the first that is flagged. -/
theorem find?_finRange {n : Nat} (flagged : Fin n → Bool) :
    ((List.finRange n).find? flagged).map Fin.val = (List.ofFn flagged).findIdx? id := by
  induction n with
  | zero => rfl
  | succ n ih =>
    have later := ih fun i => flagged i.succ
    rw [List.finRange_succ, List.find?_cons, List.ofFn_succ, List.findIdx?_cons, ← later,
      List.find?_map]
    cases h : flagged 0 with
    | true => simp
    | false =>
      simp only [id_eq, Bool.false_eq_true, if_false, Option.map_map]
      rfl

def readable (descriptors : List Descriptor) : List PollEntry := descriptors.map (⟨·, .read⟩)

/-- A wait shows what it was answered in the end. Without a timeout it asks for none. -/
theorem showing_any {descriptors : List Descriptor} {timeout : Option Duration}
    {ok : Option Nat → List Sign → Prop} {err : Failure → List Sign → Prop}
    (success : ∀ millis flags, (timeout = none → millis = none) →
      flags.length = descriptors.length →
      ok (flags.findIdx? id) (shown ++ [.poll (readable descriptors) millis (.ok flags)]))
    (failure : ∀ millis errno, (timeout = none → millis = none) →
      err (.socket (.readiness errno "poll"))
        (shown ++ [.poll (readable descriptors) millis (.error errno)])) :
    (Wait.any descriptors timeout).Meets showing shown ok err := by
  refine Attempt.meets_bind.mpr (Wait.meets_poll_asking
    (fun millis => timeout = none → millis = none) ?_ fun _ h => h)
  exact {
    steady := by
      intro request timing
      refine ⟨trivial, fun answer => ?_⟩
      cases request with
      | clock => exact List.append_nil shown
      | signalCount => exact List.append_nil shown
      | _ => exact timing.elim
    allowed := fun _ _ _ => trivial
    again := fun _ _ _ => List.append_nil shown
    returned := by
      intro signals millis flagged asked _
      rw [Attempt.meets_pure, find?_finRange]
      exact success millis _ asked (by simp)
    failed := fun signals millis errno asked _ => failure millis errno asked }

/-- What the first attempt of a wait asks for while the clock stands at zero. -/
def Wait.firstMillis (timeout : Option Duration) : Option Nat :=
  (timeout.bind (deadlineAt 0)).map fun deadline => millisLeft deadline 0

theorem Wait.firstMillis_zero : firstMillis (some .zero) = some 0 := by decide

/-- Whatever a wait may be answered, it can show. -/
theorem Wait.shows_any {descriptors : List Descriptor} {flags : List Bool}
    (each : flags.length = descriptors.length) (timeout : Option Duration) :
    (any descriptors timeout).run.Shows
      [.poll (readable descriptors) (firstMillis timeout) (.ok flags)]
      (.ok (flags.findIdx? id)) := by
  have entries : (readable descriptors).length = flags.length := by simp [readable, each]
  let flagged : Fin (readable descriptors).length → Bool := fun i => flags.get (i.cast entries)
  have same : List.ofFn flagged = flags := List.ext_getElem (by simp [entries]) (by simp [flagged])
  have until' : (deadline timeout).Shows [] (timeout.bind (deadlineAt 0)) := by
    cases timeout with
    | none => exact .pure none
    | some timeout => exact .map (.perform .clock (0 : Nat)) (.pure _)
  have asked : ∀ deadline, (attemptMillis deadline).Shows []
      (deadline.map fun deadline => millisLeft deadline 0) := by
    intro deadline
    cases deadline with
    | none => exact .pure none
    | some deadline => exact .map (.perform .clock (0 : Nat)) (.pure _)
  have attempted : (attempts (readable descriptors) (timeout.bind (deadlineAt 0)) 0).Shows
      [.poll (readable descriptors) (firstMillis timeout) (.ok flags)] (.ok flagged) := by
    rw [attempts, ← same]
    exact (asked _).bind (.map (.perform (.poll 0 _ _) (.returned flagged)) (.pure _))
  have whole : (do
      let moment ← deadline timeout
      let signals ← Program.perform .signalCount
      attempts (readable descriptors) moment signals).Shows
      [.poll (readable descriptors) (firstMillis timeout) (.ok flags)] (.ok flagged) :=
    until'.bind (.bind (.perform .signalCount (0 : Nat)) attempted)
  have polled : (poll (readable descriptors) timeout).run.Shows
      [.poll (readable descriptors) (firstMillis timeout) (.ok flags)] (.ok flagged) :=
    Attempt.shows_ofReply whole _
  have found := find?_finRange flagged
  rw [same] at found
  rw [← found]
  exact polled.map (.pure _)

/-- A look at a token, and whether it finds the token set. -/
inductive Cancellation.Looked (token : Cancellation) : Bool → Sign → Prop
  | found (set : Bool) (millis : Option Nat) :
      Looked token set (.poll [⟨token.descriptor, .read⟩] millis (.ok [set]))
  | failed (errno : Errno) (millis : Option Nat) :
      Looked token false (.poll [⟨token.descriptor, .read⟩] millis (.error errno))

theorem showing_isRequested {token : Cancellation} {post : Bool → List Sign → Prop}
    (h : ∀ set look, token.Looked set look → post set (shown ++ [look])) :
    token.isRequested.Meets showing shown post := by
  have look : (Wait.any [token.descriptor] (some .zero)).Meets showing shown
      (fun found => post found.isSome) fun _ => post false := by
    refine showing_any (fun millis flags _ one => ?_) fun millis errno _ => h _ _ (.failed _ _)
    obtain ⟨set, rfl⟩ := List.length_eq_one_iff.mp one
    have found : ([set].findIdx? id).isSome = set := by cases set <;> rfl
    rw [found]
    exact h set _ (.found set millis)
  refine Program.meets_bind.mpr (Attempt.meets_run_iff.mpr (look.mono (fun _ _ h => h) ?_))
  exact fun cause shown h => Program.meets_bind.mpr (showing_note.mpr h)

theorem Cancellation.shows_isRequested (token : Cancellation) (set : Bool) :
    token.isRequested.Shows [.poll [⟨token.descriptor, .read⟩] (some 0) (.ok [set])] set := by
  have one : [set].length = [token.descriptor].length := rfl
  have looked := Wait.shows_any one (some .zero)
  rw [Wait.firstMillis_zero] at looked
  refine looked.map ?_
  cases set with
  | false => exact .pure _
  | true => exact .pure _

/-! ### Sockets -/

/-- A socket is asked for. -/
def Candidate.tried (c : Candidate) (answer : Reply Descriptor) : Sign :=
  .socket c.family c.sockType c.protocol answer

theorem showing_ofCandidate {c : Candidate} {ok : Socket → List Sign → Prop}
    {err : Failure → List Sign → Prop}
    (granted : ∀ d, ok ⟨d, c.family⟩ (shown ++ [c.tried (.ok d)]))
    (refused : ∀ errno, err (.socket (.create errno)) (shown ++ [c.tried (.error errno)])) :
    (Socket.ofCandidate c).Meets showing shown ok err := by
  refine Attempt.meets_bind.mpr (Attempt.meets_ofReply.mpr (showing_perform.mpr ?_))
  intro answer
  cases answer with
  | ok d => exact granted d
  | error errno => exact refused errno

theorem Socket.shows_ofCandidate (c : Candidate) (answer : Reply Descriptor) :
    (ofCandidate c).run.Shows [c.tried answer]
      ((answer.map fun d => ⟨d, c.family⟩).mapError fun errno => .socket (.create errno)) := by
  have created : (Attempt.ofReply (fun errno => Failure.socket (.create errno))
      (Program.perform (.socket c.family c.sockType c.protocol))).run.Shows [c.tried answer]
      (answer.mapError _) :=
    Attempt.shows_ofReply (.perform (.socket _ _ _) answer) _
  cases answer with
  | ok d => exact created.map (.pure _)
  | error errno => exact created.map (.pure _)

theorem showing_request {socket : Socket} {address : SocketAddress}
    {ok : Reply Unit → List Sign → Prop} {err : Failure → List Sign → Prop}
    (unformed : address.encode? = none → err (.socket (.invalidAddress "address too long")) shown)
    (answered : ∀ raw answer, address.encode? = some raw →
      ok answer (shown ++ [.connect socket.descriptor raw answer])) :
    (socket.request address).Meets showing shown ok err := by
  unfold Socket.request
  split
  · rename_i none
    exact unformed none
  · rename_i raw encodes
    exact Attempt.meets_always.mpr (showing_perform.mpr fun answer => answered raw answer encodes)

theorem Socket.shows_request {address : SocketAddress} {raw : Bytes}
    (encodes : address.encode? = some raw) (socket : Socket) (answer : Reply Unit) :
    (socket.request address).run.Shows [.connect socket.descriptor raw answer]
      (.ok answer) := by
  unfold Socket.request
  rw [encodes]
  exact Attempt.shows_always (.perform (.connect _ _) answer)

end
end StreamTransport
