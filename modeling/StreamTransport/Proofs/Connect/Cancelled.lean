import StreamTransport.Proofs.Connect.Accounting
import StreamTransport.Proofs.Connect.Runs
import StreamTransport.Proofs.Connect.Requests

/-!
# A cancelled connect fails

Every connect that succeeds has looked at the token last of all and found it
not set. So it fails where the token is set before that look, and then its
sockets are closed.
-/

set_option autoImplicit false

namespace StreamTransport

open Program

/-- What a finished look at a token has found. One that failed has found nothing set. -/
def Event.found? (token : Cancellation) : Event → Option Bool
  | ⟨.poll _ entries _, answer⟩ =>
    if entries = [⟨token.descriptor, .read⟩] then
      match (answer : PollAnswer _ entries.length) with
      | .returned flagged => some ((List.finRange _).any flagged)
      | .failed _ => some false
      | .interrupted _ => none
    else none
  | _ => none

/-- Looks at the token work and find it set. -/
def Cancellation.SetIn (token : Cancellation) (events : List Event) : Prop :=
  ∀ e ∈ events, ∀ found, e.found? token = some found → found = true

def socketless (request : Call) : Prop :=
  ∀ family sockType protocol, request ≠ .socket family sockType protocol

/-- Every socket that was created is closed afterwards. -/
def SocketsClosed (events : List Event) : Prop :=
  ∀ before family sockType protocol d after,
    events = before ++ ⟨.socket family sockType protocol, (.ok d : Reply Descriptor)⟩ :: after →
    ∃ e ∈ after, e.request = .close d

section

variable {token : Cancellation} {s : Option Bool}

theorem found?_eq_none {e : Event}
    (h : ∀ signals millis, e.request ≠ .poll signals [⟨token.descriptor, .read⟩] millis) :
    e.found? token = none := by
  rcases e with ⟨request, answer⟩
  cases request with
  | poll signals entries millis =>
    have other : entries ≠ [⟨token.descriptor, .read⟩] := by
      rintro rfl
      exact h signals millis rfl
    simp [Event.found?, other]
  | _ => rfl

theorem latest_ignores {P : Call → Prop}
    (h : ∀ request, P request → ∀ signals millis,
      request ≠ .poll signals [⟨token.descriptor, .read⟩] millis) :
    (latest (Event.found? token)).Ignores P s := by
  refine fun request hp => ⟨trivial, fun answer => ?_⟩
  have unseen := found?_eq_none (e := ⟨request, answer⟩) (h request hp)
  simp [latest, unseen]

theorem latest_ignores_routine : (latest (Event.found? token)).Ignores (routine []) s := by
  refine latest_ignores ?_
  rintro _ ⟨_, names⟩ signals millis rfl
  simp [Call.names] at names

theorem latest_ignores_tunes {d : Descriptor} :
    (latest (Event.found? token)).Ignores (tunes d) s := by
  refine latest_ignores ?_
  rintro _ h signals millis rfl
  exact h

/-- A look tells what the latest look has found. -/
theorem Cancellation.isRequested_found :
    token.isRequested.Meets (latest (Event.found? token)) s fun set s => s = some set :=
  meets_isRequested {
    steady := latest_ignores_routine
    allowed := fun _ _ => trivial
    again := fun _ _ _ => by simp [latest, Event.found?]
    returned := fun _ _ flagged _ => by
      simp [latest, Event.found?, List.finRange_succ]
    failed := fun _ _ _ _ => ⟨latest_ignores_routine, by simp [latest, Event.found?]⟩ }

namespace Connector

variable {c : Connector} {endpoint : String} {port : UInt32} {timeout : Option Duration}

theorem reach_alike (target : Target) : Step.Only (fun _ => True) (reach timeout target) := by
  cases target with
  | external d => exact .ofAttempt (.of_run (meets_of_allowed fun _ _ => trivial))
  | unix address => exact (nameless_reach (by simp) timeout).alike fun _ _ _ => trivial
  | vsock address => exact (nameless_reach (by simp) timeout).alike fun _ _ _ => trivial
  | host name port => exact (nameless_reach (by simp) timeout).alike fun _ _ _ => trivial

theorem configure_looks {socket : Connection} :
    (configure socket).Meets (latest (Event.found? c.cancel)) s c (fun _ _ s => s = some false)
      fun _ _ _ => True := by
  have closes : ∀ s, socket.descriptor.close.Meets (latest (Event.found? c.cancel)) s
      fun _ _ => True := fun _ => meets_of_allowed fun _ _ => trivial
  refine meets_configure_of (R := fun c' _ => c'.cancel = c.cancel) ?_ (fun _ => rfl) ?_
  · intro _
    refine meets_recordLocal trivial (fun _ => latest_ignores_routine) ?_ ?_
    · exact fun answer ip _ => rfl
    · exact fun answer cause _ => meets_of_allowed fun _ _ => trivial
  · intro c' s' same
    rw [Attempt.meets_orElseClean]
    refine meets_configureOptions latest_ignores_tunes (fun _ => closes _) ?_
    rw [same]
    refine Cancellation.isRequested_found.mono fun set s found => ?_
    cases set with
    | true => exact closes _
    | false => exact found

/-- A connect that succeeds has found the token not set by its last look. -/
theorem connect_looks :
    (c.connect endpoint port timeout).Meets (latest (Event.found? c.cancel)) none
      fun outcome s => ∀ socket, outcome.1 = .ok socket → s = some false := by
  have looks : (sequence endpoint port timeout).Meets (latest (Event.found? c.cancel)) none c
      (fun _ _ s => s = some false) fun _ _ _ => True := by
    unfold sequence
    split
    · trivial
    · rename_i target _
      rw [Step.meets_bind]
      have reached : (reach timeout target).Meets (latest (Event.found? c.cancel)) none c
          (fun _ c' _ => Alike c c') fun _ c' _ => Alike c c' :=
        (reach_alike target).alike (fun _ _ _ => trivial) c
      refine reached.mono (fun socket c' s alike => ?_) fun _ _ _ _ => trivial
      rw [← alike.cancel]
      exact configure_looks
  rw [meets_connect_iff]
  exact looks.mono (fun socket c' s found _ _ => found) fun e c' s _ => by simp

theorem openLayer_looks :
    (c.openLayer endpoint port timeout).Meets (latest (Event.found? c.cancel)) none
      fun outcome s => ∀ layer, outcome.1 = .ok layer → s = some false := by
  refine meets_openLayer_of_connect (connect_looks.mono fun outcome s found => ⟨?_, ?_⟩)
  · simp
  · refine fun socket connected => ⟨latest_ignores ?_, fun _ _ _ => found socket connected⟩
    rintro _ h signals millis rfl
    exact h

/-- Where the token is set before the last look at it, nothing succeeds. -/
theorem fails_of_set {α : Type} {p : Program (Except ConnectError α × Connector)}
    {token : Cancellation}
    (looks : p.Meets (latest (Event.found? token)) none fun outcome s =>
      ∀ a, outcome.1 = .ok a → s = some false)
    {before after : List Event} {r : Except ConnectError α} {c' : Connector}
    (runs : Runs p (before ++ after) (r, c')) (set : token.SetIn after)
    (early : before = [] ∨ ∃ e ∈ after, (e.found? token).isSome) : ∃ e, r = .error e := by
  cases r with
  | error e => exact ⟨e, rfl⟩
  | ok a =>
    obtain ⟨_, found⟩ := looks.of_every_run (fun _ _ => trivial) runs
    have last : (latest (Event.found? token)).after none (before ++ after) = some false :=
      found a rfl
    by_cases seen : ∃ e ∈ after, (e.found? token).isSome
    · rw [Contract.after, List.foldl_append, ← Contract.after] at last
      have true' := (latest_shown set seen).symm.trans last
      simp at true'
    · obtain rfl := early.resolve_right seen
      have unseen : ∀ e ∈ after, e.found? token = none := by simpa using seen
      rw [List.nil_append, latest_unshown unseen] at last
      simp at last

end Connector

end

/-! ### The sockets of a connect that fails -/

theorem socketsClosed_of_ledger {lent : Set Descriptor} {events : List Event}
    (balanced : (ledger lent).after 0 events = 0) : SocketsClosed events := by
  rintro before family sockType protocol d after rfl
  have gone : d ∉ (ledger lent).after 0
      (before ++ ⟨.socket family sockType protocol, (.ok d : Reply Descriptor)⟩ :: after) := by
    simp [balanced]
  obtain ⟨e, he, closed⟩ := closed_after_opened rfl gone
  exact ⟨e, he, closed?_eq_some_iff.mp closed⟩

theorem socketsClosed_of_socketless {events : List Event}
    (h : ∀ e ∈ events, socketless e.request) : SocketsClosed events := by
  rintro before family sockType protocol d after rfl
  refine absurd rfl (h ⟨.socket family sockType protocol, (.ok d : Reply Descriptor)⟩ ?_ family
    sockType protocol)
  simp

theorem socketless_of_routine {ds : List Descriptor} {request : Call} (h : routine ds request) :
    socketless request := by
  rintro family sockType protocol rfl
  simp [routine, Call.isRoutine] at h

namespace Connector

variable {c : Connector} {endpoint : String} {port : UInt32} {timeout : Option Duration}

/-- A descriptor that was handed in is used without creating a socket. -/
theorem connect_socketless (external : endpoint.toList.head? = some '|') :
    (c.connect endpoint port timeout).Only socketless := by
  refine connect_only (fun target named => ?_) (fun _ _ => socketless_of_routine)
    (by simp [socketless]) (by simp [socketless])
  obtain ⟨d, rfl⟩ := Target.external_of_head external named
  have adopts : ((Connection.adopt d).mapError ConnectError.socket).Only socketless := by
    refine Attempt.Only.mapError (Attempt.Only.bind ?_ fun _ => .pure _) _
    have asks : socketless (.localName d) := by simp [socketless]
    exact (Attempt.Only.ofReply (.perform asks) _).bind fun _ => .of_run (.pure _)
  exact Step.meets_ofAttempt.mpr adopts

theorem connect_closes {events : List Event} {e : ConnectError} {c' : Connector}
    (runs : Runs (c.connect endpoint port timeout) events (.error e, c')) :
    SocketsClosed events := by
  by_cases external : endpoint.toList.head? = some '|'
  · exact socketsClosed_of_socketless ((connect_socketless external).of_runs runs)
  · have meets : (c.connect endpoint port timeout).Meets (ledger Set.univ) 0 fun outcome held =>
        ∀ e, outcome.1 = .error e → held = 0 :=
      meets_connect (Set.mem_univ _) external (by simp) fun _ _ _ _ => rfl
    obtain ⟨_, balanced⟩ := meets.of_every_run (fun _ _ => trivial) runs
    exact socketsClosed_of_ledger (balanced e rfl)

theorem openLayer_socketless (external : endpoint.toList.head? = some '|') :
    (c.openLayer endpoint port timeout).Only socketless := by
  refine openLayer_only (connect_socketless external) ?_
  rintro _ h family sockType protocol rfl
  exact h

theorem openLayer_closes {events : List Event} {e : ConnectError} {c' : Connector}
    (runs : Runs (c.openLayer endpoint port timeout) events (.error e, c')) :
    SocketsClosed events := by
  by_cases external : endpoint.toList.head? = some '|'
  · exact socketsClosed_of_socketless ((openLayer_socketless external).of_runs runs)
  · have meets : (c.openLayer endpoint port timeout).Meets (ledger Set.univ) 0
        fun outcome held => ∀ e, outcome.1 = .error e → held = 0 :=
      meets_openLayer (Set.mem_univ _) external (by simp) fun _ _ _ _ => rfl
    obtain ⟨_, balanced⟩ := meets.of_every_run (fun _ _ => trivial) runs
    exact socketsClosed_of_ledger (balanced e rfl)

end Connector

/-! ### A token that is set from the start -/

/-- The token is set all along, and nothing may be connected. -/
def unconnected (token : Cancellation) : Contract Unit where
  allowed _ request := ∀ d address, request ≠ .connect d address
  promised _ e := ∀ found, e.found? token = some found → found = true
  next _ _ := ()

section

variable {token : Cancellation}

theorem unconnected_ignores {P : Call → Prop}
    (h : ∀ request, P request → ∀ d address, request ≠ .connect d address) :
    (unconnected token).Ignores P () :=
  fun request hp => ⟨h request hp, fun _ => rfl⟩

theorem unconnected_ignores_prepares : (unconnected token).Ignores prepares () := by
  refine unconnected_ignores ?_
  rintro _ h d address rfl
  exact h

theorem unconnected_ignores_routine : (unconnected token).Ignores (routine []) () :=
  unconnected_ignores fun _ => connectless_of_routine

theorem unconnected_ignores_note {post : Unit → Unit → Prop} (notice : Notice) (h : post () ()) :
    (Journal.note notice : Program Unit).Meets (unconnected token) () post :=
  (prepares_note notice).meets unconnected_ignores_prepares fun _ => h

theorem Cancellation.isRequested_set :
    token.isRequested.Meets (unconnected token) () fun set _ => set = true :=
  meets_isRequested {
    steady := unconnected_ignores_routine
    allowed := by simp [unconnected]
    again := fun _ _ _ => rfl
    returned := fun signals millis flagged set => by
      simpa [unconnected, Event.found?, List.finRange_succ] using set
    failed := fun signals millis errno set => by
      simp [unconnected, Event.found?] at set }

theorem Socket.connectWithin_set (socket : Socket) (address : SocketAddress)
    (timeout : Option Duration) :
    (socket.connectWithin address timeout token).Meets (unconnected token) () (fun _ _ => False)
      fun _ _ => True := by
  simp only [connectWithin, Attempt.meets_bind, Attempt.meets_always]
  refine Cancellation.isRequested_set.mono ?_
  rintro _ _ rfl
  simp only [if_true, Attempt.meets_bind, Attempt.meets_always]
  have closes : socket.descriptor.close.Only prepares := .perform trivial
  exact closes.meets unconnected_ignores_prepares fun _ => trivial

theorem Race.run_set (targets : List Alternate) (port : UInt16) :
    (Race.run targets port (some token)).Meets (unconnected token) () (fun _ _ => False)
      fun _ _ => True := by
  have turn : ∀ participants, (connectInTurn (some token) participants).Meets (unconnected token) ()
      (fun _ _ => False) fun _ _ => True := by
    intro participants
    cases participants with
    | nil => trivial
    | cons p rest =>
      simp only [connectInTurn, Attempt.meets_bind, Attempt.meets_always]
      refine Cancellation.isRequested_set.mono ?_
      rintro _ _ rfl
      simp only [if_true, Attempt.meets_bind, Attempt.meets_always]
      exact (prepares_closeAll _).meets unconnected_ignores_prepares fun _ => trivial
  simp only [run, Attempt.meets_bind, Attempt.meets_always]
  exact (prepares_line port targets).meets unconnected_ignores_prepares fun participants =>
    unconnected_ignores_note _ (turn participants)

end

namespace Connector

variable {c : Connector} {endpoint : String} {port : UInt32} {timeout : Option Duration}

theorem connectResolved_set {token : Cancellation} (same : c.cancel = token) (host : String)
    (port : UInt16) (timeout : Option Duration) :
    (connectResolved host port timeout).Meets (unconnected token) () c (fun _ _ _ => False)
      fun _ _ _ => True := by
  subst same
  have resolves : prepares (.resolve host (some port)) := trivial
  rw [connectResolved, Step.meets_bind, Step.meets_always]
  refine ⟨(unconnected_ignores_prepares _ resolves).1, fun (answer : Outcome Resolution) _ => ?_⟩
  change Step.Meets (unconnected c.cancel) () c _ (fun _ _ _ => False) fun _ _ _ => True
  cases answer with
  | error cause =>
    simp only [Step.meets_bind, Step.meets_always, Step.meets_throw]
    exact unconnected_ignores_note _ trivial
  | ok resolution =>
    simp only [Step.meets_bind, Step.meets_modify, Step.meets_get, Step.meets_ofAttempt,
      Step.meets_always, Attempt.meets_run_iff]
    refine (prepares_socketFor host resolution _).meets unconnected_ignores_prepares
      (fun found => ?_) fun _ => trivial
    refine unconnected_ignores_note _ ?_
    refine (found.1.connectWithin_set _ _).mono (fun _ _ => False.elim) fun _ _ _ => ?_
    exact unconnected_ignores_note _ trivial

theorem reachHost_set (host : String) (port : UInt16) (timeout : Option Duration) :
    (reachHost host port timeout).Meets (unconnected c.cancel) () c (fun _ _ _ => False)
      fun _ _ _ => True := by
  simp only [reachHost, Step.meets_bind, Step.meets_get, Step.meets_always]
  refine (prepares_racesFor c.settings host).meets unconnected_ignores_prepares fun races => ?_
  cases races with
  | false => exact connectResolved_set rfl host port timeout
  | true =>
    simp only [if_true, Step.meets_bind, Step.meets_always, Attempt.meets_run_iff]
    refine (Race.run_set c.settings.targets port).mono (fun _ _ => False.elim) fun e _ _ => ?_
    split
    · contradiction
    · trivial
    · simp only [Step.meets_bind, Step.meets_always, Step.meets_modify]
      have same : (c.record .connectCancelled).cancel = c.cancel := rfl
      exact unconnected_ignores_note _ (connectResolved_set same host port timeout)

/-- A host is not connected to where the token is set from the start. -/
theorem connect_set {name : String} {hostPort : UInt16}
    (host : Target.ofEndpoint endpoint port = .ok (.host name hostPort)) :
    (c.connect endpoint port timeout).Meets (unconnected c.cancel) () fun outcome _ =>
      ∀ socket, outcome.1 ≠ .ok socket := by
  have fails : (sequence endpoint port timeout).Meets (unconnected c.cancel) () c
      (fun _ _ _ => False) fun _ _ _ => True := by
    unfold sequence
    rw [host, Step.meets_bind]
    exact (reachHost_set name hostPort timeout).mono (fun _ _ _ => False.elim) fun _ _ _ h => h
  rw [meets_connect_iff]
  exact fails.mono (fun _ _ _ => False.elim) fun e c' _ _ => by simp

theorem openLayer_set {name : String} {hostPort : UInt16}
    (host : Target.ofEndpoint endpoint port = .ok (.host name hostPort)) :
    (c.openLayer endpoint port timeout).Meets (unconnected c.cancel) () fun _ _ => True := by
  refine meets_openLayer_of_connect ((connect_set host).mono fun outcome _ failed => ⟨?_, ?_⟩)
  · exact fun _ _ => trivial
  · exact fun socket connected => absurd connected (failed socket)

/-- A program that fails where the token is set before its last look at it. Wherever it fails, its
sockets are closed. -/
structure FailsWhereSet {α : Type} (token : Cancellation)
    (p : Program (Except ConnectError α × Connector)) : Prop where
  fails : ∀ before after r c', Runs p (before ++ after) (r, c') → token.SetIn after →
    (before = [] ∨ ∃ e ∈ after, (e.found? token).isSome) → ∃ e, r = .error e
  closes : ∀ events e c', Runs p events (.error e, c') → SocketsClosed events

/-- A program that connects nothing where the token is set from the start. -/
def UnconnectedWhereSet {α : Type} (token : Cancellation) (p : Program α) : Prop :=
  ∀ events a, Runs p events a → token.SetIn events →
    ∀ e ∈ events, ∀ d address, e.request ≠ .connect d address

theorem unconnectedWhereSet_of_meets {α : Type} {token : Cancellation} {p : Program α}
    {post : α → Unit → Prop} (meets : p.Meets (unconnected token) () post) :
    UnconnectedWhereSet token p := fun _ _ runs set =>
  Contract.obeyed_iff_forall.mp (meets.of_runs runs (Contract.kept_iff_forall.mpr set)).1

/-- A connect fails where its token is set before the last look at it, whatever else the kernel
answers. A host is not even connected to where the token is set from the start. -/
theorem cancelled_connects_fail (c : Connector) (endpoint : String) (port : UInt32)
    (timeout : Option Duration) :
    FailsWhereSet c.cancel (c.connect endpoint port timeout) ∧
    FailsWhereSet c.cancel (c.openLayer endpoint port timeout) ∧
    ∀ name hostPort, Target.ofEndpoint endpoint port = .ok (.host name hostPort) →
      UnconnectedWhereSet c.cancel (c.connect endpoint port timeout) ∧
      UnconnectedWhereSet c.cancel (c.openLayer endpoint port timeout) := by
  refine ⟨⟨?_, ?_⟩, ⟨?_, ?_⟩, ?_⟩
  · exact fun before after r c' runs set early => fails_of_set connect_looks runs set early
  · exact fun events e c' runs => connect_closes runs
  · exact fun before after r c' runs set early => fails_of_set openLayer_looks runs set early
  · exact fun events e c' runs => openLayer_closes runs
  · intro name hostPort host
    exact ⟨unconnectedWhereSet_of_meets (connect_set host),
      unconnectedWhereSet_of_meets (openLayer_set host)⟩

/-- A path whose token is set when all is done but the last look, and a host whose token is set
from the start. -/
theorem cancelled_connects_fail_late :
    let c : Connector := ⟨{}, ⟨3⟩, none, none⟩
    (∃ before after r, Runs (c.connect "/s" 0 none) (before ++ after) r ∧ c.cancel.SetIn after ∧
      (∃ e ∈ after, (e.found? c.cancel).isSome) ∧ (∃ e, r.1 = .error e) ∧
      SocketsClosed (before ++ after)) ∧
    ∃ events r, Runs (c.connect "h" 80 none) events r ∧ c.cancel.SetIn events ∧
      (∃ e ∈ events, (e.found? c.cancel).isSome) ∧
      ∀ e ∈ events, ∀ d address, e.request ≠ .connect d address := by
  intro c
  constructor
  · obtain ⟨raw, _, runs⟩ := exists_short_path c none 4
    rw [List.append_assoc] at runs
    have set : c.cancel.SetIn (c.cancel.look true ++ [⟨.close 4, ()⟩]) := by
      simp [Cancellation.SetIn, Cancellation.look, Event.found?]
    have seen : ∃ e ∈ c.cancel.look true ++ [⟨.close 4, ()⟩], (e.found? c.cancel).isSome := by
      simp [Cancellation.look, Event.found?]
    obtain ⟨path, _⟩ := cancelled_connects_fail c "/s" 0 none
    exact ⟨_, _, _, runs, set, seen, path.fails _ _ _ _ runs set (.inr seen),
      path.closes _ _ _ runs⟩
  · have named : Target.ofEndpoint "h" 80 = .ok (.host "h" 80) := by decide +kernel
    have runs : Runs (c.connect "h" 80 none) _ _ :=
      runs_host_cancelled named ⟨3⟩ (.stream (.unix ⟨[115]⟩)) 4
    have set : c.cancel.SetIn (resolved "h" 80 (.stream (.unix ⟨[115]⟩)) 4 ++
        (c.cancel.look true ++ [⟨.close 4, ()⟩] ++
          [⟨.note (.hostConnectFailed "h" .cancelled), ()⟩])) := by
      simp [Cancellation.SetIn, Cancellation.look, resolved, Event.found?]
    have seen : ∃ e ∈ resolved "h" 80 (.stream (.unix ⟨[115]⟩)) 4 ++
        (c.cancel.look true ++ [⟨.close 4, ()⟩] ++
          [⟨.note (.hostConnectFailed "h" .cancelled), ()⟩]), (e.found? c.cancel).isSome := by
      simp [Cancellation.look, resolved, Event.found?]
    obtain ⟨_, _, host⟩ := cancelled_connects_fail c "h" 80 none
    exact ⟨_, _, runs, set, seen, (host "h" 80 named).1 _ _ runs set⟩

end Connector
end StreamTransport
