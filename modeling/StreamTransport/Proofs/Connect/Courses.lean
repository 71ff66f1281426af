import StreamTransport.Proofs.Connect.Requests

/-!
# Courses of a connect to a host

A connect to a host is cut where the race is over. The race wins, or ends with
the connect cancelled, or is lost; where there was none, or it was lost, the
host itself is resolved. So the course of a connect is how its race ended and
what the host's resolution answered, and its events decide which course it was.
-/

set_option autoImplicit false

namespace StreamTransport

open Program (Runs runs_bind_iff runs_map_iff runs_perform_iff)

namespace Connector

/-- The race of a connect to a host, where there is one. -/
def raceFor (c : Connector) (host : String) (port : UInt16) :
    Program (Option (Except ConnectError Connection)) := do
  if ← racesFor c.settings host then
    return some (← (Race.run c.settings.targets port (some c.cancel)).run)
  else return none

/-- What follows the race. -/
def afterRace (host : String) (port : UInt16) (timeout : Option Duration) :
    Option (Except ConnectError Connection) → Step Connection
  | none => connectResolved host port timeout
  | some (.ok socket) => return socket
  | some (.error .cancelled) => throw .cancelled
  | some (.error e) => do
    Step.always (Journal.note (.raceFailed host e))
    modify (·.record .connectCancelled)
    connectResolved host port timeout

/-- What a connect leaves of how its sequence ended. -/
def recorded : Except ConnectError Connection × Connector →
    Except ConnectError Connection × Connector
  | (.ok socket, c) => (.ok socket, c)
  | (.error e, c) => (.error e, c.record e.code)

variable {c c' : Connector} {host endpoint : String} {port : UInt32} {hostPort : UInt16}
  {timeout : Option Duration} {events : List Event} {r : Except ConnectError Connection}

theorem reachHost_run (c : Connector) (host : String) (port : UInt16) (timeout : Option Duration) :
    (reachHost host port timeout).run.run c =
      raceFor c host port >>= fun race => (afterRace host port timeout race).run.run c := by
  have asked : (reachHost host port timeout).run.run c = racesFor c.settings host >>= fun _ => _ :=
    Step.run_always_bind (racesFor c.settings host) _ c
  rw [asked, raceFor, bind_assoc]
  refine bind_congr fun races => ?_
  cases races with
  | false => rfl
  | true =>
    simp only [if_true, bind_assoc, pure_bind, Step.run_always_bind]
    refine bind_congr fun raced => ?_
    rcases raced with e | socket
    · cases e <;> rfl
    · rfl

theorem connect_eq (c : Connector) (endpoint : String) (port : UInt32) (timeout : Option Duration) :
    c.connect endpoint port timeout =
      recorded <$> (sequence endpoint port timeout).run.run c := by
  rw [connect, map_eq_pure_bind]
  refine bind_congr fun outcome => ?_
  rcases outcome with ⟨_ | _, c⟩
  · rfl
  · rfl

/-- A connect to a host is its race and what follows, and is then configured. -/
theorem connect_host (named : Target.ofEndpoint endpoint port = .ok (.host host hostPort)) :
    c.connect endpoint port timeout = raceFor c host hostPort >>= fun race =>
      recorded <$> (afterRace host hostPort timeout race >>= configure).run.run c := by
  have sequence' : (sequence endpoint port timeout).run.run c = raceFor c host hostPort >>=
      fun race => (afterRace host hostPort timeout race >>= configure).run.run c := by
    unfold sequence
    rw [named]
    change (reachHost host hostPort timeout >>= configure).run.run c = _
    simp only [Step.run_bind, reachHost_run, bind_assoc]
  rw [connect_eq, sequence', map_bind]

theorem runs_connect_host (named : Target.ofEndpoint endpoint port = .ok (.host host hostPort))
    (runs : Runs (c.connect endpoint port timeout) events (r, c')) :
    ∃ first race rest outcome, events = first ++ rest ∧ Runs (raceFor c host hostPort) first race ∧
      Runs ((afterRace host hostPort timeout race >>= configure).run.run c) rest outcome ∧
      recorded outcome = (r, c') := by
  rw [connect_host named, runs_bind_iff] at runs
  obtain ⟨first, race, rest, cut, raced, later⟩ := runs
  obtain ⟨outcome, later, ended⟩ := runs_map_iff.mp later
  exact ⟨first, race, rest, outcome, cut, raced, later, ended⟩

/-- Whatever an attempt asks for, it ends as all attempts end. -/
theorem meets_anything {ε α : Type} {p : Attempt ε α} {ok : α → Unit → Prop} {err : ε → Unit → Prop}
    (success : ∀ a, ok a ()) (failure : ∀ e, err e ()) :
    p.Meets (only fun _ => True) () ok err := by
  have asks : p.Only fun _ => True := .of_run (Program.meets_of_allowed fun _ _ => trivial)
  exact asks.meets (only_ignores fun _ h => h) success failure

/-- What is recorded when a socket is reached, is recorded when it is configured. -/
theorem lastError_of_meets {p : Step Connection} {last : Option ErrorCode}
    (reaches : p.Meets (only fun _ => True) () c (fun _ c' _ => c'.lastError = last)
      fun _ c' _ => c'.lastError = last)
    (runs : Runs ((p >>= configure).run.run c) events (r, c')) : c'.lastError = last := by
  have meets : (p >>= configure).Meets (only fun _ => True) () c (fun _ c' _ => c'.lastError = last)
      fun _ c' _ => c'.lastError = last := by
    refine Step.meets_bind.mpr (reaches.mono (fun socket c₁ _ same => ?_) fun _ _ _ h => h)
    have kept := configure_only socket c₁ (fun _ _ _ => trivial) (fun _ => trivial)
      fun _ => trivial
    exact kept.mono (fun _ _ _ h => h.trans same) fun _ _ _ h => h.trans same
  obtain ⟨_, ended⟩ := Program.Meets.of_every_run meets (fun _ _ => trivial) runs
  cases r with
  | ok _ => exact ended
  | error _ => exact ended

/-- A host that is resolved on its own account: where the resolution fails, so does the connect and
nothing is recorded; where it succeeds, the record is cleared. -/
theorem runs_resolved
    (runs : Runs ((connectResolved host hostPort timeout >>= configure).run.run c) events (r, c')) :
    ∃ answer rest, events = ⟨.resolve host (some hostPort), answer⟩ :: rest ∧
      ((∃ cause, answer = .error cause) ∧ r = .error (.resolve host) ∧ c' = c ∨
        (∃ resolution, answer = .ok resolution) ∧ c'.lastError = none) := by
  rw [connectResolved, bind_assoc, Step.run_always_bind, runs_bind_iff] at runs
  obtain ⟨_, (answer : Outcome Resolution), rest, rfl, asked, later⟩ := runs
  obtain rfl := runs_perform_iff.mp asked
  refine ⟨answer, rest, rfl, ?_⟩
  cases answer with
  | error cause =>
    dsimp only at later
    rw [bind_assoc, Step.run_always_bind, runs_bind_iff] at later
    obtain ⟨_, _, _, _, _, thrown⟩ := later
    cases thrown
    exact .inl ⟨⟨cause, rfl⟩, rfl, rfl⟩
  | ok resolution =>
    refine .inr ⟨⟨resolution, rfl⟩, lastError_of_meets ?_ later⟩
    simp only [Step.meets_bind, Step.meets_modify, Step.meets_get, Step.meets_ofAttempt,
      Step.meets_always, Attempt.meets_run_iff]
    refine meets_anything (fun found => ⟨trivial, fun _ _ => ?_⟩) fun _ => rfl
    exact meets_anything (fun _ => rfl) fun _ => ⟨trivial, fun _ _ => rfl⟩

/-! ### The course of a connect -/

/-- What a race was lost with. A race that ends with the connect cancelled is not lost. -/
def lost? : Option (Except ConnectError Connection) → Option ConnectError
  | some (.error .cancelled) => none
  | some (.error e) => some e
  | some (.ok _) => none
  | none => none

theorem lost?_error {e : ConnectError} (h : e ≠ .cancelled) : lost? (some (.error e)) = some e := by
  cases e <;> first | rfl | contradiction

theorem afterRace_lost {e : ConnectError} (h : e ≠ .cancelled) :
    afterRace host hostPort timeout (some (.error e)) = (do
      Step.always (Journal.note (.raceFailed host e))
      modify (·.record .connectCancelled)
      connectResolved host hostPort timeout) := by
  cases e <;> first | rfl | contradiction

/-- What follows a lost race: a notice, and the host is resolved on its own account. -/
theorem runs_lost {e : ConnectError} {rest : List Event}
    {outcome : Except ConnectError Connection × Connector} (lost : e ≠ .cancelled)
    (runs : Runs ((afterRace host hostPort timeout (some (.error e)) >>= configure).run.run c)
      rest outcome) :
    ∃ own, rest = ⟨.note (.raceFailed host e), ()⟩ :: own ∧
      Runs ((connectResolved host hostPort timeout >>= configure).run.run
        (c.record .connectCancelled)) own outcome := by
  rw [afterRace_lost lost, bind_assoc, Step.run_always_bind, runs_bind_iff] at runs
  obtain ⟨_, _, own, rfl, noted, later⟩ := runs
  obtain rfl := runs_perform_iff.mp noted
  exact ⟨own, rfl, later⟩

/-- How the race of a connect ended, where there was one, and what the host's own resolution
answered, where it was asked. -/
structure Course where
  race : Option (Except ConnectError Connection)
  resolution : Option (Outcome Resolution)

/-- The notice that a lost race leaves. -/
def lossNoted (host : String) (race : Option (Except ConnectError Connection)) : List Event :=
  (lost? race).toList.map fun e => ⟨.note (.raceFailed host e), ()⟩

/-- The events of a connect to a host follow a course: they begin with the race, and the host is
resolved where there was no race and where it was lost. -/
def Follows (c : Connector) (host : String) (port : UInt16) (events : List Event)
    (course : Course) : Prop :=
  ∃ first rest, events = first ++ rest ∧ Runs (raceFor c host port) first course.race ∧
    match course.resolution with
    | none => course.race ≠ none ∧ lost? course.race = none
    | some answer => (course.race = none ∨ lost? course.race ≠ none) ∧ ∃ later,
      rest = lossNoted host course.race ++ ⟨.resolve host (some port), answer⟩ :: later

theorem Follows.unique {course course' : Course} (h : Follows c host hostPort events course)
    (h' : Follows c host hostPort events course') : course = course' := by
  rcases course with ⟨race, resolution⟩
  rcases course' with ⟨race', resolution'⟩
  obtain ⟨first, rest, rfl, raced, later⟩ := h
  obtain ⟨first', rest', cut, raced', later'⟩ := h'
  dsimp only at raced raced' later later'
  -- a run of the race cannot go on where another has ended, so both are cut at the same event
  obtain ⟨rfl, rfl⟩ := raced.unique raced' cut
  obtain rfl := List.append_cancel_left cut
  rcases resolution with _ | answer <;> rcases resolution' with _ | answer'
  · rfl
  · obtain ⟨ran, won⟩ := later
    exact absurd later'.1 (by simp [ran, won])
  · obtain ⟨ran, won⟩ := later'
    exact absurd later.1 (by simp [ran, won])
  · obtain ⟨_, more, cut⟩ := later
    obtain ⟨_, more', cut'⟩ := later'
    obtain ⟨here, _⟩ := List.cons.inj (List.append_cancel_left (cut.symm.trans cut'))
    rw [eq_of_heq (Event.mk.inj here).2]

/-- The course of a connect. An endpoint that names no host is neither raced for nor resolved. -/
def CourseOf (c : Connector) (endpoint : String) (port : UInt32) (events : List Event)
    (course : Course) : Prop :=
  match Target.ofEndpoint endpoint port with
  | .ok (.host host hostPort) => Follows c host hostPort events course
  | _ => course = ⟨none, none⟩

theorem CourseOf.unique {course course' : Course} (h : CourseOf c endpoint port events course)
    (h' : CourseOf c endpoint port events course') : course = course' := by
  revert h h'
  unfold CourseOf
  split
  · exact Follows.unique
  · exact fun h h' => h.trans h'.symm

end Connector
end StreamTransport
