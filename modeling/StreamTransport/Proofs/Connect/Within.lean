import StreamTransport.Proofs.Connect.Started

/-!
# What a connect within a time comes to

The token is looked at, the connect started, and what ends the wait decides:
the token before the connect, and where neither is ready the time is over. A
connect that is ready is probed twice, for an error that is held against it and
for a reset. Where the kernel hinders none of the calls around the connect, this
is all that can happen.
-/

set_option autoImplicit false

namespace StreamTransport

open Program

/-- What decides a connect that was started, from the end of the wait on. -/
inductive Decision (d watch : Descriptor) (address : SocketAddress) (timeout : Option Duration)
    (token : Cancellation) : List Sign → Except ConnectError Unit → Prop
  | cancelled (millis : Option Nat) (ready : Bool) :
      Decision d watch address timeout token
        [.poll (readable [token.descriptor, watch]) millis (.ok [true, ready])]
        (.error .cancelled)
  | timedOut (millis : Option Nat) {t : Duration} (given : timeout = some t)
      (limits : t.nanos ≠ 0) :
      Decision d watch address timeout token
        [.poll (readable [token.descriptor, watch]) millis (.ok [false, false])]
        (.error (.timedOut address.text t))
  | failed (millis : Option Nat) {number : Int} (held : number ≠ 0) :
      Decision d watch address timeout token
        [.poll (readable [token.descriptor, watch]) millis (.ok [false, true]),
          .getOption d .pendingError (.ok number)]
        (.error (.connect address.text (.system ⟨number⟩)))
  | reset (millis : Option Nat) :
      Decision d watch address timeout token
        [.poll (readable [token.descriptor, watch]) millis (.ok [false, true]),
          .getOption d .pendingError (.ok 0), .peek d (.error .connectionReset)]
        (.error (.connect address.text (.system .connectionReset)))
  | stands (millis : Option Nat) {peeked : Reply Unit}
      (whole : peeked ≠ .error .connectionReset) :
      Decision d watch address timeout token
        [.poll (readable [token.descriptor, watch]) millis (.ok [false, true]),
          .getOption d .pendingError (.ok 0), .peek d peeked, .watchRemove watch d (.ok ())]
        (.ok ())

theorem effectiveTimeout_eq_some {timeout : Option Duration} {t : Duration} :
    effectiveTimeout timeout = some t ↔ timeout = some t ∧ t.nanos ≠ 0 := by
  simp [effectiveTimeout, Option.filter_eq_some_iff]

section

variable {shown : List Sign} {started : StartedConnect} {watch : Descriptor}
  {address : SocketAddress} {timeout : Option Duration} {token : Cancellation}

/-- Confirming a connect that was started ends with what decides it. -/
theorem showing_confirm {ok : Unit → List Sign → Prop} {err : ConnectError → List Sign → Prop}
    (decided : ∀ new result,
      Decision started.descriptor watch address timeout token new result →
      Attempt.Ends ok err result (shown ++ new))
    (hindered : ∀ e new, Hindered new → err e (shown ++ new)) :
    (started.confirm ⟨watch, started.descriptor⟩ address (effectiveTimeout timeout) token).Meets
      showing shown ok err := by
  simp only [StartedConnect.confirm, Attempt.meets_bind, Attempt.meets_mapError]
  refine showing_any (fun millis flags asked two => ?_) fun millis errno _ => ?_
  · obtain ⟨set, ready, rfl⟩ : ∃ set ready, flags = [set, ready] := by
      rcases flags with _ | ⟨set, _ | ⟨ready, _ | _⟩⟩ <;> simp_all
    cases set with
    | true =>
      refine Attempt.meets_bind.mpr (Attempt.meets_always.mpr (showing_note.mpr ?_))
      exact decided _ _ (.cancelled millis ready)
    | false =>
      cases ready with
      | false =>
        change err (.timedOut address.text ((effectiveTimeout timeout).getD .zero)) _
        cases limit : effectiveTimeout timeout with
        | none =>
          -- without a limit the wait cannot have ended with nothing
          refine hindered _ _ (hindered_singleton ?_)
          rintro ⟨flags, same, some'⟩
          obtain rfl := Except.ok.inj same
          simpa using some' (asked limit)
        | some t =>
          obtain ⟨given, limits⟩ := effectiveTimeout_eq_some.mp limit
          exact decided _ _ (.timedOut millis given limits)
      | true =>
        refine Attempt.meets_bind.mpr (Attempt.meets_mapError.mpr ?_)
        refine showing_pendingError (fun number => ?_) fun cause new h => ?_
        · by_cases held : number = 0
          · subst held
            simp only [if_true, Attempt.meets_bind, Attempt.meets_mapError]
            refine showing_checkReset ?_ fun peeked whole => ?_
            · rw [List.append_assoc, List.append_assoc]
              exact decided _ _ (.reset millis)
            · refine Attempt.meets_ofReply.mpr (showing_perform.mpr fun answer => ?_)
              rw [List.append_assoc, List.append_assoc, List.append_assoc]
              cases answer with
              | ok _ => exact decided _ _ (.stands millis whole)
              | error errno =>
                have fails : Hindered [.watchRemove watch started.descriptor (.error errno)] :=
                  hindered_singleton Bool.false_ne_true
                exact hindered _ _ (((fails.after _).after _).after _)
          · simp only [held, if_false, Attempt.meets_bind, Attempt.meets_throw]
            rw [List.append_assoc]
            exact decided _ _ (.failed millis held)
        · rw [List.append_assoc]
          exact hindered _ _ (h.after _)
  · refine hindered _ _ (hindered_singleton ?_)
    rintro ⟨flags, same, _⟩
    contradiction

end

/-- A connect that goes on is watched. -/
def Socket.opening (socket : Socket) (look : Sign) (mode : List Sign) (raw : Bytes)
    (answer : Reply Unit) (watch : Descriptor) : List Sign :=
  [look] ++ mode ++ [.connect socket.descriptor raw answer] ++
    [.watchCreate (.ok watch), .watchAdd watch socket.descriptor ⟨true, true, true⟩ (.ok ())]

/-- What a connect within a time comes to: it is cancelled before it starts, refused at once,
decided against, or done. -/
inductive Socket.Ending (socket : Socket) (address : SocketAddress) (timeout : Option Duration)
    (token : Cancellation) : List Sign → Except ConnectError Connection → Prop
  | cancelled {look : Sign} (looked : token.Looked true look) :
      Ending socket address timeout token [look, .close socket.descriptor] (.error .cancelled)
  | refused {look : Sign} {mode : List Sign} {raw : Bytes} {errno : Errno}
      (looked : token.Looked false look) (switched : Switched socket.descriptor true mode)
      (encodes : address.encode? = some raw) (fatal : goesOn (.error errno) = false) :
      Ending socket address timeout token
        ([look] ++ mode ++ [.connect socket.descriptor raw (.error errno)] ++
          [.close socket.descriptor])
        (.error (.connect address.text (.socket (.connect errno address.text))))
  | failed {look : Sign} {mode : List Sign} {raw : Bytes} {answer : Reply Unit}
      {watch : Descriptor} {decision : List Sign} {e : ConnectError}
      (looked : token.Looked false look) (switched : Switched socket.descriptor true mode)
      (encodes : address.encode? = some raw) (started : goesOn answer = true)
      (decided : Decision socket.descriptor watch address timeout token decision (.error e)) :
      Ending socket address timeout token
        (socket.opening look mode raw answer watch ++ decision ++ [.close watch] ++
          [.close socket.descriptor])
        (.error e)
  | connected {look : Sign} {mode : List Sign} {raw : Bytes} {answer : Reply Unit}
      {watch : Descriptor} {decision : List Sign} {back : List Sign}
      (looked : token.Looked false look) (switched : Switched socket.descriptor true mode)
      (encodes : address.encode? = some raw) (started : goesOn answer = true)
      (decided : Decision socket.descriptor watch address timeout token decision (.ok ()))
      (blocks : Switched socket.descriptor false back) :
      Ending socket address timeout token
        (socket.opening look mode raw answer watch ++ decision ++ [.close watch] ++ back)
        (.ok ⟨socket.descriptor, socket.family, .ofFamily address.family⟩)

/-- Where it comes to nothing of this, it fails: the kernel hinders it or the address has no form
for the kernel. -/
theorem showing_connectWithin (socket : Socket) (address : SocketAddress)
    (timeout : Option Duration) (token : Cancellation) :
    Program.Meets showing [] (socket.connectWithin address timeout token).run fun result shown =>
      socket.Ending address timeout token shown result ∨
        (∃ e, result = .error e) ∧ (Hindered shown ∨ address.encode? = none) := by
  refine Attempt.meets_run_iff.mpr ?_
  simp only [Socket.connectWithin, Attempt.meets_bind, Attempt.meets_always]
  refine showing_isRequested fun set look looked => ?_
  cases set with
  | true =>
    simp only [if_true, Attempt.meets_bind, Attempt.meets_always, Attempt.meets_throw]
    exact showing_close.mpr (.inl (.cancelled looked))
  | false =>
    simp only [Bool.false_eq_true, if_false, Attempt.meets_bind, Attempt.meets_mapError,
      Attempt.meets_orElseClean, Attempt.meets_always, Attempt.meets_pure]
    refine showing_startConnect (fun mode raw answer switched encodes started => ?_)
      (fun mode raw errno switched encodes fatal => ?_) (fun cause new none => ?_)
      fun cause new h => ?_
    · refine showing_watch (fun watch => ?_) fun cause new h => ?_
      · refine showing_confirm (fun decision result decided => ?_) fun e new h => ?_
        · cases result with
          | ok _ =>
            refine showing_close.mpr ?_
            refine showing_setNonblocking (fun back blocks => ?_) fun cause new h => ?_
            · exact .inl (.connected looked switched encodes started decided blocks)
            · exact showing_close.mpr (.inr ⟨⟨_, rfl⟩, .inl ((h.after _).before _)⟩)
          | error e =>
            refine showing_close.mpr (showing_close.mpr (.inl ?_))
            exact .failed looked switched encodes started decided
        · refine showing_close.mpr (showing_close.mpr (.inr ⟨⟨_, rfl⟩, .inl ?_⟩))
          exact ((h.after _).before _).before _
      · exact showing_close.mpr (.inr ⟨⟨_, rfl⟩, .inl ((h.after _).before _)⟩)
    · exact .inl (.refused looked switched encodes fatal)
    · exact .inr ⟨⟨_, rfl⟩, .inr none⟩
    · exact .inr ⟨⟨_, rfl⟩, .inl (h.after _)⟩

namespace Socket

/-- What a connect within a time has come to when nothing hinders it, and what it leaves behind. -/
structure Settles (socket : Socket) (address : SocketAddress) (timeout : Option Duration)
    (token : Cancellation) (shown : List Sign) (result : Except ConnectError Connection) :
    Prop where
  ending : socket.Ending address timeout token shown result
  cancels : result = .error .cancelled ↔ ∃ others millis flags,
    .poll (readable (token.descriptor :: others)) millis (.ok (true :: flags)) ∈ shown
  timesOut : (∃ text t, result = .error (.timedOut text t)) ↔
    (∃ t, timeout = some t ∧ t.nanos ≠ 0) ∧
    ∃ watch millis, .poll (readable [token.descriptor, watch]) millis (.ok [false, false]) ∈ shown
  closes : ∀ e, result = .error e → ∃ before, shown = before ++ [.close socket.descriptor]
  blocks : ∀ c, result = .ok c → ∃ before back, shown = before ++ back ∧
    Switched socket.descriptor false back
  unwatches : ∀ watch, .watchCreate (.ok watch) ∈ shown →
    [.watchCreate (.ok watch), .close watch].Sublist shown

namespace Ending

variable {socket : Socket} {address : SocketAddress} {timeout : Option Duration}
  {token : Cancellation} {shown : List Sign} {result : Except ConnectError Connection}

theorem cancels (ending : socket.Ending address timeout token shown result) :
    result = .error .cancelled ↔ ∃ others millis flags,
      .poll (readable (token.descriptor :: others)) millis (.ok (true :: flags)) ∈ shown := by
  cases ending with
  | cancelled looked =>
    cases looked
    simp [readable]
  | refused looked switched encodes fatal =>
    cases looked <;> cases switched <;> simp [readable]
  | failed looked switched encodes started decided =>
    cases looked <;> cases switched <;> cases decided <;> simp [opening, readable]
  | connected looked switched encodes started decided blocks =>
    cases looked <;> cases switched <;> cases decided <;> cases blocks <;> simp [opening, readable]

theorem timesOut (ending : socket.Ending address timeout token shown result) :
    (∃ text t, result = .error (.timedOut text t)) ↔
      (∃ t, timeout = some t ∧ t.nanos ≠ 0) ∧ ∃ watch millis,
        .poll (readable [token.descriptor, watch]) millis (.ok [false, false]) ∈ shown := by
  cases ending with
  | cancelled looked =>
    cases looked
    simp [readable]
  | refused looked switched encodes fatal =>
    cases looked <;> cases switched <;> simp [readable]
  | failed looked switched encodes started decided =>
    cases decided with
    | timedOut millis given limits =>
      cases looked <;> cases switched <;> simp [opening, readable, given, limits]
    | _ => cases looked <;> cases switched <;> simp [opening, readable]
  | connected looked switched encodes started decided blocks =>
    cases looked <;> cases switched <;> cases decided <;> cases blocks <;> simp [opening, readable]

theorem closes (ending : socket.Ending address timeout token shown result) {e : ConnectError}
    (failed : result = .error e) : ∃ before, shown = before ++ [.close socket.descriptor] := by
  cases ending with
  | @cancelled look looked => exact ⟨[look], rfl⟩
  | refused looked switched encodes fatal => exact ⟨_, rfl⟩
  | failed looked switched encodes started decided => exact ⟨_, rfl⟩
  | connected looked switched encodes started decided blocks => contradiction

theorem blocks (ending : socket.Ending address timeout token shown result) {c : Connection}
    (connected : result = .ok c) :
    ∃ before back, shown = before ++ back ∧ Switched socket.descriptor false back := by
  cases ending with
  | connected looked switched encodes started decided blocks => exact ⟨_, _, rfl, blocks⟩
  | _ => contradiction

/-- The watch is created before it is closed. -/
theorem opening_sublist (look : Sign) (mode : List Sign) (raw : Bytes) (answer : Reply Unit)
    (watch : Descriptor) (decision rest : List Sign) :
    [.watchCreate (.ok watch), .close watch].Sublist
      (socket.opening look mode raw answer watch ++ decision ++ [.close watch] ++ rest) := by
  have opened : [.watchCreate (.ok watch)].Sublist
      (socket.opening look mode raw answer watch ++ decision) := by
    simp [opening]
  have closed : [.close watch].Sublist ([.close watch] ++ rest) := by simp
  rw [List.append_assoc]
  exact opened.append closed

theorem unwatches (ending : socket.Ending address timeout token shown result) {watch : Descriptor}
    (created : .watchCreate (.ok watch) ∈ shown) :
    [.watchCreate (.ok watch), .close watch].Sublist shown := by
  cases ending with
  | cancelled looked =>
    cases looked
    simp at created
  | refused looked switched encodes fatal =>
    cases looked <;> cases switched <;> simp at created
  | @failed _ _ _ _ watch' _ _ looked switched encodes started decided =>
    obtain rfl : watch = watch' := by
      cases looked <;> cases switched <;> cases decided <;> simpa [opening] using created
    exact opening_sublist _ _ _ _ _ _ _
  | @connected _ _ _ _ watch' _ _ looked switched encodes started decided blocks =>
    obtain rfl : watch = watch' := by
      cases looked <;> cases switched <;> cases decided <;> cases blocks <;>
        simpa [opening] using created
    exact opening_sublist _ _ _ _ _ _ _

end Ending

section

variable {address : SocketAddress} {raw : Bytes} {answer peeked : Reply Unit}

/-- What a connect shows that goes on, is found ready and stands. -/
def straight (socket : Socket) (timeout : Option Duration) (token : Cancellation) (raw : Bytes)
    (answer peeked : Reply Unit) (watch : Descriptor) : List Sign :=
  [.poll (readable [token.descriptor]) (some 0) (.ok [false]),
    .readMode socket.descriptor (.ok false), .writeMode socket.descriptor true (.ok ()),
    .connect socket.descriptor raw answer, .watchCreate (.ok watch),
    .watchAdd watch socket.descriptor ⟨true, true, true⟩ (.ok ()),
    .poll (readable [token.descriptor, watch]) (Wait.firstMillis (effectiveTimeout timeout))
      (.ok [false, true]),
    .getOption socket.descriptor .pendingError (.ok 0), .peek socket.descriptor peeked,
    .watchRemove watch socket.descriptor (.ok ()), .close watch,
    .readMode socket.descriptor (.ok true), .writeMode socket.descriptor false (.ok ())]

/-- A connect that goes on and then looks whole is reported, whatever it goes on after. -/
theorem shows_straight (encodes : address.encode? = some raw) (started : goesOn answer = true)
    (whole : peeked ≠ .error .connectionReset) (socket : Socket) (timeout : Option Duration)
    (token : Cancellation) (watch : Descriptor) :
    (socket.connectWithin address timeout token).run.Shows
      (socket.straight timeout token raw answer peeked watch)
      (.ok ⟨socket.descriptor, socket.family, .ofFamily address.family⟩) := by
  let pending : StartedConnect := ⟨socket.descriptor, socket.family⟩
  have two : [false, true].length = [token.descriptor, watch].length := rfl
  have waited := Wait.shows_any two (effectiveTimeout timeout)
  have confirmed : (pending.confirm ⟨watch, socket.descriptor⟩ address (effectiveTimeout timeout)
      token).run.Shows _ (.ok ()) :=
    Attempt.shows_bind (Attempt.shows_mapError waited _)
      (Attempt.shows_bind (Attempt.shows_mapError pending.shows_pendingError _)
        (Attempt.shows_bind (Attempt.shows_mapError (pending.shows_checkReset whole) _)
          (Attempt.shows_mapError (Watch.shows_stop ⟨watch, socket.descriptor⟩) _)))
  have starts := shows_startConnect encodes started socket (.now Bool.false_ne_true)
  have watches := Watch.shows_create socket.descriptor watch ⟨true, true, true⟩
  have blocks : (socket.descriptor.setNonblocking false).run.Shows _ (.ok ()) :=
    Descriptor.shows_setNonblocking (.now Bool.false_ne_true.symm)
  exact Attempt.shows_bind (Attempt.shows_always (token.shows_isRequested false))
    (Attempt.shows_bind (Attempt.shows_mapError starts _)
      (Attempt.shows_orElseClean_ok
        (Attempt.shows_bind (Attempt.shows_mapError watches _)
          (Attempt.shows_bind (Attempt.shows_orElseClean_ok confirmed)
            (Attempt.shows_bind (Attempt.shows_always (.close watch))
              (Attempt.shows_bind (Attempt.shows_mapError blocks _) (.pure _)))))))

end

section

variable {socket : Socket} {address : SocketAddress} {timeout : Option Duration}
  {token : Cancellation} {raw : Bytes} {events : List Event}
  {result : Except ConnectError Connection}

end

/-! ### What is reported as connected -/

/-- The kernel has made the connection or goes on making it. -/
def Underway (answer : Reply Unit) : Prop :=
  answer = .ok () ∨ answer = .error .inProgress ∨ answer = .error .already ∨
    answer = .error .interrupted

theorem goesOn_iff {answer : Reply Unit} :
    goesOn answer = true ↔ Underway answer ∨ answer = .error .tryAgain := by
  cases answer with
  | ok _ => simp [goesOn, Underway]
  | error errno =>
    simp only [goesOn, Errno.isTransient, Underway, Bool.or_eq_true, decide_eq_true_eq,
      reduceCtorEq, Except.error.injEq, false_or]
    grind

/-- A connect that was answered so, and peeked at with this answer, is reported as connected. -/
def Reports (socket : Socket) (address : SocketAddress) (timeout : Option Duration)
    (token : Cancellation) (answer peeked : Reply Unit) : Prop :=
  ∃ shown connection raw, (socket.connectWithin address timeout token).run.Shows shown
    (.ok connection) ∧ .connect socket.descriptor raw answer ∈ shown ∧
    .peek socket.descriptor peeked ∈ shown

theorem ending_of_connected {socket : Socket} {address : SocketAddress} {timeout : Option Duration}
    {token : Cancellation} {shown : List Sign} {connection : Connection}
    (shows' : (socket.connectWithin address timeout token).run.Shows shown (.ok connection)) :
    ∃ raw answer peeked, address.encode? = some raw ∧ goesOn answer = true ∧
      peeked ≠ .error .connectionReset ∧
      (∀ d raw' answer', .connect d raw' answer' ∈ shown ↔
        d = socket.descriptor ∧ raw' = raw ∧ answer' = answer) ∧
      ∀ d answer', .peek d answer' ∈ shown ↔ d = socket.descriptor ∧ answer' = peeked := by
  rcases (showing_connectWithin socket address timeout token).of_shows shows' with
    ending | ⟨failed, _⟩
  · cases ending with
    | @connected look mode raw answer watch decision back looked switched encodes started decided
        blocks =>
      cases decided with
      | @stands millis peeked whole =>
        refine ⟨raw, answer, peeked, encodes, started, whole, ?_, ?_⟩
        · cases looked <;> cases switched <;> cases blocks <;> simp [opening]
        · cases looked <;> cases switched <;> cases blocks <;> simp [opening]
  · obtain ⟨e, failed⟩ := failed
    contradiction

/-- A connect is reported as connected where its call succeeded, where the connection is being
made, and also where the kernel has no room for it just now and nothing was started, if only the
socket is ready then, holds no error and is not reset. -/
theorem reports_iff {address : SocketAddress} {raw : Bytes} (encodes : address.encode? = some raw)
    (socket : Socket) (timeout : Option Duration) (token : Cancellation) :
    (∀ events connection,
      Runs (socket.connectWithin address timeout token).run events (.ok connection) →
      ∃ answer, (Underway answer ∨ answer = .error .tryAgain) ∧
        ∀ d raw' answer', .connect d raw' answer' ∈ signs events ↔
          d = socket.descriptor ∧ raw' = raw ∧ answer' = answer) ∧
    ∀ answer peeked, socket.Reports address timeout token answer peeked ↔
      (Underway answer ∨ answer = .error .tryAgain) ∧ peeked ≠ .error .connectionReset := by
  constructor
  · intro events connection runs
    obtain ⟨raw', answer, peeked, encodes', started, whole, connects, _⟩ :=
      ending_of_connected runs.shows
    obtain rfl := Option.some.inj (encodes.symm.trans encodes')
    exact ⟨answer, goesOn_iff.mp started, connects⟩
  · intro answer peeked
    rw [← goesOn_iff]
    constructor
    · rintro ⟨shown, connection, raw', shows', connected, probed⟩
      obtain ⟨_, _, _, _, started, whole, connects, peeks⟩ := ending_of_connected shows'
      obtain ⟨_, _, rfl⟩ := (connects _ _ _).mp connected
      obtain ⟨_, rfl⟩ := (peeks _ _).mp probed
      exact ⟨started, whole⟩
    · rintro ⟨started, whole⟩
      refine ⟨_, _, raw, shows_straight encodes started whole socket timeout token 0, ?_, ?_⟩
      · simp [straight]
      · simp [straight]

/-- A connect in progress is reported where the probe finds it whole, and not where it is reset. -/
theorem reports_iff_in_progress :
    ∃ raw, SocketAddress.encode? (.unix ⟨Text.utf8 "/s"⟩) = some raw ∧
      Reports ⟨4, .unix⟩ (.unix ⟨Text.utf8 "/s"⟩) none ⟨3⟩ (.error .inProgress) (.ok ()) ∧
      ¬ Reports ⟨4, .unix⟩ (.unix ⟨Text.utf8 "/s"⟩) none ⟨3⟩ (.error .inProgress)
        (.error .connectionReset) := by
  obtain ⟨raw, encodes⟩ := Option.isSome_iff_exists.mp
    (by decide +kernel : (SocketAddress.encode? (.unix ⟨Text.utf8 "/s"⟩)).isSome)
  obtain ⟨_, reports⟩ := reports_iff encodes ⟨4, .unix⟩ none ⟨3⟩
  refine ⟨raw, encodes, (reports _ _).mpr ⟨.inl (.inr (.inl rfl)), nofun⟩, fun reset => ?_⟩
  obtain ⟨_, whole⟩ := (reports _ _).mp reset
  exact whole rfl

/-- A connect that was not even started: the kernel has no room for it, and a socket that was never
connected is ready, holds no error, and cannot be peeked at. It is reported as connected. -/
theorem unstarted_connect_reported :
    ∃ raw events, SocketAddress.encode? (.unix ⟨Text.utf8 "/s"⟩) = some raw ∧
      Runs (connectWithin ⟨4, .unix⟩ (.unix ⟨Text.utf8 "/s"⟩) (some ⟨1000000000⟩) ⟨3⟩).run events
        (.ok ⟨4, .unix, .unix⟩) ∧
      signs events = straight ⟨4, .unix⟩ (some ⟨1000000000⟩) ⟨3⟩ raw (.error .tryAgain)
        (.error ⟨22⟩) 5 ∧
      ¬ Underway (.error .tryAgain) := by
  obtain ⟨raw, encodes⟩ := Option.isSome_iff_exists.mp
    (by decide +kernel : (SocketAddress.encode? (.unix ⟨Text.utf8 "/s"⟩)).isSome)
  have whole : (.error ⟨22⟩ : Reply Unit) ≠ .error .connectionReset := by
    simp [Errno.connectionReset]
  have started : goesOn (.error .tryAgain) = true := rfl
  obtain ⟨events, runs, shown⟩ := shows_straight encodes started whole ⟨4, .unix⟩
    (some ⟨1000000000⟩) ⟨3⟩ 5
  refine ⟨raw, events, encodes, runs, shown, ?_⟩
  simp [Underway, Errno.tryAgain, Errno.inProgress, Errno.already, Errno.interrupted]

end Socket
end StreamTransport
