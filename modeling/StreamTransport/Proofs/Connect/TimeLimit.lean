import StreamTransport.Proofs.Connect.Runs
import StreamTransport.Proofs.Wait.Elapsed

/-!
# Time limits

How soon a wait can report that its time is over, and a connect that waits for
its socket. The bound is the time that was given, but not above the longest time
that one attempt of a wait can ask for: a longer time is cut short there. A
connect reports it only where its own wait has found nothing.
-/

set_option autoImplicit false

namespace StreamTransport

open Program

namespace Socket

/-- Between other events, the token and a watch were waited for, and neither was ready. -/
def WaitsBetween (token : Cancellation) (timeout : Duration)
    (before waited after events : List Event) : Prop :=
  events = before ++ waited ++ after ∧
    ∃ watch, Runs (Wait.any [token.descriptor, watch] (some timeout)).run waited (.ok none)

/-- An error that tells that the time is over comes after such a wait. -/
def TimesOutWaiting (token : Cancellation) (timeout : Duration) (e : ConnectError)
    (events : List Event) : Prop :=
  ∀ text given, e = .timedOut text given →
    ∃ before waited after, WaitsBetween token timeout before waited after events

section

variable {α ε : Type} {token : Cancellation} {timeout : Duration} {past : List Event}

theorem TimesOutWaiting.append {e : ConnectError} {events : List Event}
    (h : TimesOutWaiting token timeout e events) (later : List Event) :
    TimesOutWaiting token timeout e (events ++ later) := by
  intro text given same
  obtain ⟨before, waited, after, rfl, nothing⟩ := h text given same
  exact ⟨before, waited, after ++ later, by simp, nothing⟩

/-- Other errors tell nothing of the time. -/
theorem TimesOutWaiting.of_ne {e : ConnectError} {events : List Event}
    (other : ∀ text given, e ≠ .timedOut text given) : TimesOutWaiting token timeout e events :=
  fun text given same => absurd same (other text given)

theorem recording_allowed (past : List Event) (request : Call) : recording.allowed past request :=
  trivial

/-- What follows does not take back what was waited for. -/
theorem recording_afterwards {p : Program α} {e : ConnectError}
    (h : TimesOutWaiting token timeout e past) :
    p.Meets recording past fun _ => TimesOutWaiting token timeout e :=
  meets_recording_iff.mpr fun events _ _ => h.append events

/-- Where it fails otherwise, and it does not matter where it goes on, a part is of no account. -/
theorem recording_aside {p : Attempt ε α} {ok : α → List Event → Prop}
    {err : ε → List Event → Prop} (goesOn : ∀ a past, ok a past) (fails : ∀ e past, err e past) :
    p.Meets recording past ok err :=
  Attempt.meets_of_allowed recording_allowed goesOn fails

/-- Nor is a part of account whose errors are others. -/
theorem recording_otherwise {p : Attempt ε α} {meaning : ε → ConnectError}
    {ok : α → List Event → Prop} (other : ∀ cause text given, meaning cause ≠ .timedOut text given)
    (goesOn : ∀ a past, ok a past) :
    (p.mapError meaning).Meets recording past ok (TimesOutWaiting token timeout) :=
  Attempt.meets_mapError.mpr (recording_aside goesOn fun cause _ => .of_ne (other cause))

theorem recording_confirm {started : StartedConnect} {watch : Watch} {address : SocketAddress} :
    (started.confirm watch address (some timeout) token).Meets recording past (fun _ _ => True)
      (TimesOutWaiting token timeout) := by
  rw [StartedConnect.confirm, Attempt.meets_bind, Attempt.meets_mapError]
  refine meets_recording_iff.mpr fun waited found nothing => ?_
  rcases found with cause | _ | _ | _
  · exact .of_ne (by simp)
  · exact fun _ _ _ => ⟨past, waited, [], by simp, watch.descriptor, nothing⟩
  · refine Attempt.meets_bind.mpr (Attempt.meets_always.mpr ?_)
    exact (Program.meets_of_allowed recording_allowed).mono fun _ _ _ => .of_ne (by simp)
  · refine Attempt.meets_bind.mpr (recording_otherwise (by simp) fun cause past => ?_)
    cases cause with
    | some cause => exact .of_ne (by simp)
    | none =>
      refine Attempt.meets_bind.mpr (recording_otherwise (by simp) fun _ past => ?_)
      exact recording_otherwise (by simp) fun _ _ => trivial

/-- A connect within a time reports that the time is over only where its wait found nothing. -/
theorem recording_connectWithin (limits : timeout.nanos ≠ 0) (socket : Socket)
    (address : SocketAddress) :
    (socket.connectWithin address (some timeout) token).Meets recording past (fun _ _ => True)
      (TimesOutWaiting token timeout) := by
  have limit : effectiveTimeout (some timeout) = some timeout := by
    simp [effectiveTimeout, Option.filter, limits]
  simp only [connectWithin, limit, Attempt.meets_bind, Attempt.meets_always]
  refine (Program.meets_of_allowed recording_allowed).mono fun set past _ => ?_
  cases set with
  | true =>
    simp only [if_true, Attempt.meets_bind, Attempt.meets_always, Attempt.meets_throw]
    exact (Program.meets_of_allowed recording_allowed).mono fun _ _ _ => .of_ne (by simp)
  | false =>
    simp only [Bool.false_eq_true, if_false, Attempt.meets_bind, Attempt.meets_mapError,
      Attempt.meets_orElseClean, Attempt.meets_always, Attempt.meets_pure]
    refine recording_aside (fun started past => ?_) fun _ _ => .of_ne (by simp)
    refine recording_aside (fun watch past => ?_) fun cause past => ?_
    · refine recording_confirm.mono (fun _ past _ => ?_) fun e past h => ?_
      · refine (Program.meets_of_allowed recording_allowed).mono fun _ past _ => ?_
        refine recording_aside (fun _ _ => trivial) fun cause past => ?_
        exact recording_afterwards (.of_ne (by simp))
      · exact (recording_afterwards h).mono fun _ _ => recording_afterwards
    · exact recording_afterwards (.of_ne (by simp))

theorem waitsBetween_of_runs (limits : timeout.nanos ≠ 0) {socket : Socket}
    {address : SocketAddress} {events : List Event} {text : String} {given : Duration}
    (runs : Runs (socket.connectWithin address (some timeout) token).run events
      (.error (.timedOut text given))) :
    ∃ before waited after, WaitsBetween token timeout before waited after events := by
  have meets : (socket.connectWithin address (some timeout) token).Meets recording []
      (fun _ _ => True) (TimesOutWaiting token timeout) :=
    recording_connectWithin limits socket address
  exact meets_recording_iff.mp meets events _ runs text given rfl

end

/-- A connect that is started and goes on in the background. -/
theorem runs_startConnect {address : SocketAddress} {raw : Bytes}
    (encodes : address.encode? = some raw) (socket : Socket) :
    Runs (socket.startConnect address).run
      [⟨.readMode socket.descriptor, (.ok true : Reply Bool)⟩,
        ⟨.connect socket.descriptor raw, (.error .inProgress : Reply Unit)⟩]
      (.ok ⟨socket.descriptor, socket.family⟩) := by
  have switched : Runs (socket.descriptor.setNonblocking true).run
      [⟨.readMode socket.descriptor, (.ok true : Reply Bool)⟩] (.ok ()) := .call _ (.done _)
  have requested : Runs (socket.request address).run
      [⟨.connect socket.descriptor raw, (.error .inProgress : Reply Unit)⟩]
      (.ok (.error .inProgress)) := by
    unfold request
    rw [encodes]
    exact .call _ (.done _)
  refine Attempt.runs_orElseClean_ok (Attempt.runs_bind switched ?_)
  exact requested.map rfl

/-- The events of such a connect up to its wait, at moment zero. -/
def underway (socket : Socket) (token : Cancellation) (raw : Bytes) (watch : Descriptor) :
    List Event :=
  token.look false ++
    ([⟨.readMode socket.descriptor, (.ok true : Reply Bool)⟩,
      ⟨.connect socket.descriptor raw, (.error .inProgress : Reply Unit)⟩] ++
      [⟨.watchCreate, (.ok watch : Reply Descriptor)⟩,
        ⟨.watchAdd watch socket.descriptor ⟨true, true, true⟩, (.ok () : Reply Unit)⟩])

/-- The events of such a connect after its wait. -/
def abandoned (socket : Socket) (watch : Descriptor) : List Event :=
  [⟨.close watch, ()⟩] ++ [⟨.close socket.descriptor, ()⟩]

theorem runs_timedOut {token : Cancellation} {timeout : Duration} (limits : timeout.nanos ≠ 0)
    {address : SocketAddress} {raw : Bytes} (encodes : address.encode? = some raw)
    (socket : Socket) {watch : Descriptor} {waited : List Event}
    (nothing : Runs (Wait.any [token.descriptor, watch] (some timeout)).run waited (.ok none)) :
    Runs (socket.connectWithin address (some timeout) token).run
      (socket.underway token raw watch ++ waited ++ socket.abandoned watch)
      (.error (.timedOut address.text timeout)) := by
  have limit : effectiveTimeout (some timeout) = some timeout := by
    simp [effectiveTimeout, Option.filter, limits]
  have closed : ∀ d : Descriptor, Runs d.close [⟨.close d, ()⟩] () := fun _ => .call _ (.done _)
  have watched : Runs (Watch.create socket.descriptor ⟨true, true, true⟩).run
      [⟨.watchCreate, (.ok watch : Reply Descriptor)⟩,
        ⟨.watchAdd watch socket.descriptor ⟨true, true, true⟩, (.ok () : Reply Unit)⟩]
      (.ok ⟨watch, socket.descriptor⟩) := .call _ (.call _ (.done _))
  have confirmed : Runs (StartedConnect.confirm ⟨socket.descriptor, socket.family⟩
      ⟨watch, socket.descriptor⟩ address (effectiveTimeout (some timeout)) token).run waited
      (.error (.timedOut address.text timeout)) := by
    have mapped : Runs ((Wait.any [token.descriptor, watch] (some timeout)).mapError
        ConnectError.socket).run waited (.ok none) := nothing.map rfl
    rw [limit]
    exact mapped.map rfl
  have looked := Attempt.runs_always (ε := ConnectError) (token.runs_isRequested false)
  simp only [underway, abandoned, List.append_assoc]
  refine Attempt.runs_bind looked ?_
  refine Attempt.runs_bind ((runs_startConnect encodes socket).map rfl) ?_
  rw [← List.append_assoc waited, ← List.append_assoc]
  refine Attempt.runs_orElseClean_error (Attempt.runs_bind (watched.map rfl) ?_) (closed _)
  exact (Attempt.runs_orElseClean_error confirmed (closed watch)).map rfl

/-- What is around the wait of such a connect takes no time. -/
theorem elapses_underway (socket : Socket) (token : Cancellation) (raw : Bytes)
    (watch : Descriptor) : Elapses 0 (socket.underway token raw watch) 0 := by
  apply elapses_at_once
  simp [underway, Cancellation.look, Event.Takes]

theorem elapses_abandoned (socket : Socket) (watch : Descriptor) (moment : Nat) :
    Elapses moment (socket.abandoned watch) moment := by
  apply elapses_at_once
  simp [abandoned, Event.Takes]

end Socket

namespace Wait

/-- A wait that ends with nothing ready can have lasted any time from its timeout on, and also from
the longest time on that one attempt can ask for, where that is less. A connect that reports that
its time is over has waited so long for its socket and its token. -/
theorem time_over_iff {timeout : Duration} (representable : timeout.nanos < clockLimit)
    (elapsed : Nat) :
    (∀ descriptor direction,
      (∃ events, Runs (one descriptor direction timeout).run events (.ok .timedOut) ∧
        MayLast timeout elapsed [] events []) ↔ min timeout.nanos longestAttempt ≤ elapsed) ∧
    (∀ descriptors,
      (∃ events, Runs (any descriptors (some timeout)).run events (.ok none) ∧
        MayLast timeout elapsed [] events []) ↔ min timeout.nanos longestAttempt ≤ elapsed) ∧
    ∀ (socket : Socket) (address : SocketAddress) (token : Cancellation), timeout.nanos ≠ 0 →
      (∀ events text given, Runs (socket.connectWithin address (some timeout) token).run events
        (.error (.timedOut text given)) →
        ∃ before waited after, Socket.WaitsBetween token timeout before waited after events) ∧
      ((address.encode?).isSome → ((∃ events before waited after text given,
        Runs (socket.connectWithin address (some timeout) token).run events
          (.error (.timedOut text given)) ∧
        Socket.WaitsBetween token timeout before waited after events ∧
        MayLast timeout elapsed before waited after) ↔
          min timeout.nanos longestAttempt ≤ elapsed)) := by
  have idle : ∀ moment, Elapses moment [] moment := fun _ => .idle (Nat.le_refl _)
  refine ⟨fun descriptor direction => ⟨?_, fun enough => ?_⟩,
    fun descriptors => ⟨?_, fun enough => ?_⟩, fun socket address token limits => ?_⟩
  · rintro ⟨events, runs, lasts⟩
    obtain ⟨flagged, nothing, waited⟩ := waited_of_timedOut runs
    exact lasts.least_le nothing waited
  · obtain ⟨reading, lasts⟩ := exists_mayLast representable enough [⟨descriptor, direction⟩]
      (idle 0) (idle elapsed)
    exact ⟨_, runs_one_silent representable descriptor direction reading, lasts⟩
  · rintro ⟨events, runs, lasts⟩
    obtain ⟨flagged, nothing, waited⟩ := waited_of_none runs
    exact lasts.least_le nothing waited
  · obtain ⟨reading, lasts⟩ := exists_mayLast representable enough (descriptors.map (⟨·, .read⟩))
      (idle 0) (idle elapsed)
    exact ⟨_, runs_any_silent representable descriptors reading, lasts⟩
  · refine ⟨fun events text given => Socket.waitsBetween_of_runs limits, fun encodes => ⟨?_, ?_⟩⟩
    · rintro ⟨events, before, waited, after, text, given, runs, ⟨-, watch, nothing⟩, lasts⟩
      obtain ⟨flagged, nothing, waited⟩ := waited_of_none nothing
      exact lasts.least_le nothing waited
    · intro enough
      obtain ⟨raw, encodes⟩ := Option.isSome_iff_exists.mp encodes
      obtain ⟨reading, lasts⟩ := exists_mayLast representable enough
        ([token.descriptor, 0].map (⟨·, .read⟩)) (socket.elapses_underway token raw 0)
        (socket.elapses_abandoned 0 elapsed)
      have nothing := runs_any_silent representable [token.descriptor, 0] reading
      exact ⟨_, _, _, _, _, _, Socket.runs_timedOut limits encodes socket nothing,
        ⟨rfl, 0, nothing⟩, lasts⟩

/-- Five seconds: a wait and a connect can report that they are over after them, and no wait can one
nanosecond earlier. -/
theorem time_over_iff_seconds :
    let timeout : Duration := ⟨5000000000⟩
    (∃ events, Runs (one 3 .read timeout).run events (.ok .timedOut) ∧
      MayLast timeout 5000000000 [] events []) ∧
    (¬ ∃ events, Runs (one 3 .read timeout).run events (.ok .timedOut) ∧
      MayLast timeout 4999999999 [] events []) ∧
    ∃ events before waited after text given,
      Runs (Socket.connectWithin ⟨4, .inet⟩ (.inet ⟨.loopback, 80⟩) (some timeout) ⟨3⟩).run events
        (.error (.timedOut text given)) ∧
      Socket.WaitsBetween ⟨3⟩ timeout before waited after events ∧
      MayLast timeout 5000000000 before waited after := by
  intro timeout
  have representable : timeout.nanos < clockLimit := by decide
  have encodes : (SocketAddress.encode? (.inet ⟨.loopback, 80⟩)).isSome := by decide +kernel
  have enough : min timeout.nanos longestAttempt ≤ 5000000000 := by decide
  obtain ⟨waits, -, connects⟩ := time_over_iff representable 5000000000
  obtain ⟨sooner, -, -⟩ := time_over_iff representable 4999999999
  refine ⟨(waits _ _).mpr enough, fun early => ?_, ?_⟩
  · exact absurd ((sooner _ _).mp early) (by decide)
  · exact ((connects _ _ _ (by decide)).2 encodes).mpr enough

/-- A wait of one millisecond more than an attempt can ask for: it ends with nothing ready after the
longest attempt, and the last millisecond is not waited for. -/
theorem long_wait_cut_short :
    ∃ events, Runs (one 3 .read (.ofMillis 2147483648)).run events (.ok .timedOut) ∧
      MayLast (.ofMillis 2147483648) 2147483647000000 [] events [] ∧
      2147483647000000 < (Duration.ofMillis 2147483648).nanos := by
  have representable : (Duration.ofMillis 2147483648).nanos < clockLimit := by decide
  have enough : min (Duration.ofMillis 2147483648).nanos longestAttempt ≤ 2147483647000000 := by
    decide
  have idle : ∀ moment, Elapses moment [] moment := fun _ => .idle (Nat.le_refl _)
  obtain ⟨reading, lasts⟩ := exists_mayLast representable enough [⟨3, .read⟩] (idle 0) (idle _)
  exact ⟨_, runs_one_silent representable 3 .read reading, lasts, by decide⟩

end Wait
end StreamTransport
