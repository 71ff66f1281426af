import Mathlib.Data.List.DropRight
import StreamTransport.Proofs.Connect.Courses
import StreamTransport.Proofs.Connect.Runs

/-!
# The error that a connector remembers

A connector keeps the first code that was recorded since its record was last
cleared. A lost race records a code, the resolution of a host clears the record
where it succeeds, and a call that fails records its code. What is remembered
after any number of calls is read off these marks.
-/

set_option autoImplicit false

namespace StreamTransport.Connector

open Program (Runs runs_bind_iff runs_map_iff)

/-- What happens to the record. -/
inductive Mark where
  | record (code : ErrorCode)
  | clear
  deriving DecidableEq

def Mark.code? : Mark → Option ErrorCode
  | record code => some code
  | clear => none

/-- The first code that was recorded after the record was last cleared. -/
def firstCode (marks : List Mark) : Option ErrorCode :=
  (marks.rtakeWhile (· ≠ .clear)).findSome? Mark.code?

theorem firstCode_record (marks : List Mark) (code : ErrorCode) :
    firstCode (marks ++ [.record code]) = some ((firstCode marks).getD code) := by
  unfold firstCode
  rw [List.rtakeWhile_concat_pos _ _ _ (by simp), List.findSome?_append]
  cases (marks.rtakeWhile (· ≠ .clear)).findSome? Mark.code? with
  | none => rfl
  | some first => rfl

theorem firstCode_clear (marks : List Mark) : firstCode (marks ++ [.clear]) = none := by
  rw [firstCode, List.rtakeWhile_concat_neg _ _ _ (by simp)]
  rfl

/-- The record is what the marks say. -/
def Shows (c : Connector) (marks : List Mark) : Prop := c.lastError = firstCode marks

variable {c c' : Connector} {before : List Mark}

theorem Shows.record (h : c.Shows before) (code : ErrorCode) :
    (c.record code).Shows (before ++ [.record code]) := by
  rw [Shows, firstCode_record, ← h]
  rfl

theorem shows_clear (h : c.lastError = none) (before : List Mark) :
    c.Shows (before ++ [.clear]) :=
  h.trans (firstCode_clear before).symm

/-! ### The marks of a call -/

def Course.marks (course : Course) : List Mark :=
  (lost? course.race).toList.map (fun _ => .record .connectCancelled) ++
    match course.resolution with
    | some (.ok _) => [.clear]
    | _ => []

/-- The race was lost, and the host did not resolve either. -/
def Course.LostTwice (course : Course) : Prop :=
  lost? course.race ≠ none ∧ ∃ cause, course.resolution = some (.error cause)

/-- A call that fails records its code. -/
def failure {α : Type} : Except ConnectError α → List Mark
  | .ok _ => []
  | .error e => [.record e.code]

/-- Where a socket is connected and no layer is made of it, that is recorded. -/
def wrapping : Except ConnectError Connection → Except ConnectError Layer → List Mark
  | .ok _, .error _ => [.record .connectFailed]
  | _, _ => []

variable {endpoint host : String} {port : UInt32} {hostPort : UInt16} {timeout : Option Duration}
  {events : List Event} {r : Except ConnectError Connection}

/-- A host that is resolved on its own account clears the record where it is resolved. -/
theorem resolved_shows (shows' : c.Shows before)
    (runs : Runs ((connectResolved host hostPort timeout >>= configure).run.run c) events (r, c')) :
    ∃ answer rest, events = ⟨.resolve host (some hostPort), answer⟩ :: rest ∧
      c'.Shows (before ++ (Course.mk none (some answer)).marks) ∧
      ∀ cause, answer = .error cause → r = .error (.resolve host) := by
  obtain ⟨answer, rest, rfl, ⟨⟨cause, rfl⟩, failed, rfl⟩ | ⟨⟨resolution, rfl⟩, cleared⟩⟩ :=
    runs_resolved runs
  · refine ⟨_, rest, rfl, ?_, fun _ _ => failed⟩
    rw [Course.marks, lost?]
    simpa using shows'
  · exact ⟨_, rest, rfl, shows_clear cleared before, by simp⟩

theorem race_shows {first rest : List Event} {race : Option (Except ConnectError Connection)}
    (shows' : c.Shows before) (raced : Runs (raceFor c host hostPort) first race)
    (runs : Runs ((afterRace host hostPort timeout race >>= configure).run.run c) rest (r, c')) :
    ∃ course, Follows c host hostPort (first ++ rest) course ∧
      c'.Shows (before ++ course.marks) ∧ (course.LostTwice → r = .error (.resolve host)) := by
  rcases race with _ | e | socket
  · obtain ⟨answer, later, rfl, marked, _⟩ := resolved_shows shows' runs
    refine ⟨⟨none, some answer⟩, ⟨first, _, rfl, raced, .inl rfl, later, rfl⟩, marked, ?_⟩
    exact fun twice => absurd rfl twice.1
  · by_cases cancelled : e = .cancelled
    · subst cancelled
      cases runs
      refine ⟨⟨some (.error .cancelled), none⟩, ⟨first, _, rfl, raced, by simp, rfl⟩, ?_, ?_⟩
      · simpa [Course.marks, lost?] using shows'
      · exact fun twice => absurd rfl twice.1
    · obtain ⟨own, rfl, runs'⟩ := runs_lost cancelled runs
      obtain ⟨answer, later, rfl, marked, unresolved⟩ :=
        resolved_shows (shows'.record .connectCancelled) runs'
      refine ⟨⟨some (.error e), some answer⟩, ⟨first, _, rfl, raced, ?_, later, ?_⟩, ?_, ?_⟩
      · exact .inr (by simp [lost?_error cancelled])
      · simp [lossNoted, lost?_error cancelled]
      · simpa [Course.marks, lost?_error cancelled, lost?] using marked
      · rintro ⟨_, cause, refused⟩
        exact unresolved cause (Option.some.inj refused)
  · have unmarked : c'.lastError = c.lastError :=
      lastError_of_meets (Step.meets_pure.mpr rfl) runs
    have same : c'.Shows before := unmarked.trans shows'
    refine ⟨⟨some (.ok socket), none⟩, ⟨first, _, rfl, raced, by simp, rfl⟩, ?_, ?_⟩
    · simpa [Course.marks, lost?] using same
    · exact fun twice => absurd rfl twice.1

/-- A sequence leaves the marks of its course, and a connect that of its failure behind them. -/
theorem recorded_shows {r₀ : Except ConnectError Connection} {c₀ : Connector} {shown : List Mark}
    (shows' : c₀.Shows shown) (ended : recorded (r₀, c₀) = (r, c')) :
    r₀ = r ∧ c'.Shows (shown ++ failure r) := by
  cases r₀ with
  | ok socket =>
    obtain ⟨rfl, rfl⟩ := Prod.mk.inj ended
    exact ⟨rfl, by simpa [failure] using shows'⟩
  | error e =>
    obtain ⟨rfl, rfl⟩ := Prod.mk.inj ended
    exact ⟨rfl, shows'.record e.code⟩

/-- A target that is not a host is reached without a mark. -/
theorem sequence_unmarked (hostless : ∀ host hostPort,
      Target.ofEndpoint endpoint port ≠ .ok (.host host hostPort))
    (runs : Runs ((sequence endpoint port timeout).run.run c) events (r, c')) :
    c'.lastError = c.lastError := by
  have reached : ∀ p : Attempt ConnectError Connection,
      Runs ((Step.ofAttempt p >>= configure).run.run c) events (r, c') →
        c'.lastError = c.lastError := fun p =>
    lastError_of_meets (Step.meets_ofAttempt.mpr (meets_anything (fun _ => rfl) fun _ => rfl))
  unfold sequence at runs
  split at runs
  · cases runs
    rfl
  · rename_i target named
    cases target with
    | unix a => exact reached _ runs
    | external d => exact reached _ runs
    | vsock a => exact reached _ runs
    | host host hostPort => exact absurd named (hostless host hostPort)

theorem connect_shows (shows' : c.Shows before)
    (runs : Runs (c.connect endpoint port timeout) events (r, c')) :
    ∃ course, CourseOf c endpoint port events course ∧
      c'.Shows (before ++ (course.marks ++ failure r)) ∧
      (course.LostTwice → ∃ host, r = .error (.resolve host)) := by
  by_cases hosted : ∃ host hostPort, Target.ofEndpoint endpoint port = .ok (.host host hostPort)
  · obtain ⟨host, hostPort, named⟩ := hosted
    obtain ⟨first, race, rest, ⟨r₀, c₀⟩, rfl, raced, later, ended⟩ := runs_connect_host named runs
    obtain ⟨course, follows, marked, lost⟩ := race_shows shows' raced later
    obtain ⟨rfl, marked'⟩ := recorded_shows marked ended
    refine ⟨course, ?_, by simpa using marked', fun twice => ⟨host, lost twice⟩⟩
    unfold CourseOf
    rw [named]
    exact follows
  · have hostless : ∀ host hostPort, Target.ofEndpoint endpoint port ≠ .ok (.host host hostPort) :=
      fun host hostPort named => hosted ⟨host, hostPort, named⟩
    rw [connect_eq, runs_map_iff] at runs
    obtain ⟨⟨r₀, c₀⟩, runs, ended⟩ := runs
    have unmarked : c₀.Shows before := (sequence_unmarked hostless runs).trans shows'
    obtain ⟨rfl, marked⟩ := recorded_shows unmarked ended
    refine ⟨⟨none, none⟩, ?_, by simpa [Course.marks, lost?] using marked, ?_⟩
    · unfold CourseOf
      split
      · rename_i named
        exact absurd named (hostless _ _)
      · rfl
    · exact fun twice => absurd rfl twice.1

/-- A layer is opened by a connect, and adds a mark where it alone fails. -/
theorem runs_openLayer {result : Except ConnectError Layer}
    (runs : Runs (c.openLayer endpoint port timeout) events (result, c')) :
    ∃ first rest connected c₁, events = first ++ rest ∧
      Runs (c.connect endpoint port timeout) first (connected, c₁) ∧
      ∀ shown, c₁.Shows shown → c'.Shows (shown ++ wrapping connected result) := by
  obtain ⟨first, ⟨connected, c₁⟩, rest, rfl, connects, later⟩ := runs_bind_iff.mp runs
  refine ⟨first, rest, connected, c₁, rfl, connects, fun shown shows' => ?_⟩
  cases connected with
  | error e =>
    cases later
    simpa [wrapping] using shows'
  | ok socket =>
    obtain ⟨_, _, _, rfl, _, later⟩ := runs_bind_iff.mp later
    obtain ⟨_, layer, _, rfl, _, later⟩ := runs_bind_iff.mp later
    cases layer with
    | ok layer =>
      cases later
      simpa [wrapping] using shows'
    | error cause =>
      obtain ⟨_, _, _, rfl, _, later⟩ := runs_bind_iff.mp later
      cases later
      exact shows'.record .connectFailed

/-! ### Histories of calls -/

/-- A call of a connector, what happened in it and how it ended. -/
inductive Invocation where
  | connect (endpoint : String) (port : UInt32) (timeout : Option Duration) (events : List Event)
      (result : Except ConnectError Connection)
  | openLayer (endpoint : String) (port : UInt32) (timeout : Option Duration) (events : List Event)
      (result : Except ConnectError Layer)

namespace Invocation

/-- A call on a connector leaves a connector behind. -/
def Leaves (c : Connector) : Invocation → Connector → Prop
  | connect endpoint port timeout events result, c' =>
    Runs (c.connect endpoint port timeout) events (result, c')
  | openLayer endpoint port timeout events result, c' =>
    Runs (c.openLayer endpoint port timeout) events (result, c')

/-- The marks of a call: those of its course, of its failure, and of a layer that fails alone. -/
def Marked (c : Connector) : Invocation → List Mark → Prop
  | connect endpoint port _ events result, marks =>
    ∃ course, CourseOf c endpoint port events course ∧ marks = course.marks ++ failure result
  | openLayer endpoint port timeout events result, marks =>
    ∃ first rest connected c₁ course, events = first ++ rest ∧
      Runs (c.connect endpoint port timeout) first (connected, c₁) ∧
      CourseOf c endpoint port first course ∧
      marks = course.marks ++ failure connected ++ wrapping connected result

theorem Marked.unique {i : Invocation} {marks marks' : List Mark} (h : i.Marked c marks)
    (h' : i.Marked c marks') : marks = marks' := by
  cases i with
  | connect endpoint port timeout events result =>
    obtain ⟨course, follows, rfl⟩ := h
    obtain ⟨course', follows', rfl⟩ := h'
    rw [follows.unique follows']
  | openLayer endpoint port timeout events result =>
    obtain ⟨first, rest, connected, c₁, course, rfl, connects, follows, rfl⟩ := h
    obtain ⟨first', rest', connected', c₂, course', cut, connects', follows', rfl⟩ := h'
    obtain ⟨rfl, same⟩ := connects.unique connects' cut
    obtain ⟨rfl, rfl⟩ := Prod.mk.inj same
    rw [follows.unique follows']

/-- What a call leaves shows its marks behind those from before. -/
theorem exists_marked {i : Invocation} (leaves : i.Leaves c c') (before : List Mark)
    (shows' : c.Shows before) : ∃ marks, i.Marked c marks ∧ c'.Shows (before ++ marks) := by
  cases i with
  | connect endpoint port timeout events result =>
    obtain ⟨course, follows, marked, _⟩ := connect_shows shows' leaves
    exact ⟨_, ⟨course, follows, rfl⟩, marked⟩
  | openLayer endpoint port timeout events result =>
    obtain ⟨first, rest, connected, c₁, rfl, connects, wrapped⟩ := runs_openLayer leaves
    obtain ⟨course, follows, marked, _⟩ := connect_shows shows' connects
    refine ⟨_, ⟨first, rest, connected, c₁, course, rfl, connects, follows, rfl⟩, ?_⟩
    rw [← List.append_assoc]
    exact wrapped _ marked

end Invocation

/-- Calls on a connector, one after the other, and their marks. -/
inductive Invoked : Connector → List Invocation → List Mark → Connector → Prop
  | nil (c : Connector) : Invoked c [] [] c
  | cons {c c' c'' : Connector} {i : Invocation} {calls : List Invocation} {marks later : List Mark}
      (leaves : i.Leaves c c') (marked : i.Marked c marks) (rest : Invoked c' calls later c'') :
      Invoked c (i :: calls) (marks ++ later) c''

theorem Invoked.shows {calls : List Invocation} {marks : List Mark}
    (invoked : Invoked c calls marks c') (shows' : c.Shows before) :
    c'.Shows (before ++ marks) := by
  induction invoked generalizing before with
  | nil c => simpa using shows'
  | cons leaves marked rest ih =>
    obtain ⟨marks, marked', shown⟩ := Invocation.exists_marked leaves before shows'
    rw [← List.append_assoc, marked.unique marked']
    exact ih shown

/-- The marks of what a connector remembers from before. -/
def earlier (last : Option ErrorCode) : List Mark := last.toList.map .record

theorem shows_earlier (c : Connector) : c.Shows (earlier c.lastError) := by
  unfold Shows
  cases c.lastError with
  | none => rfl
  | some code => rfl

theorem CourseOf.resolved {course : Course} (h : CourseOf c endpoint port events course)
    (lost : lost? course.race ≠ none) : ∃ answer, course.resolution = some answer := by
  rcases course with ⟨race, _ | answer⟩
  · unfold CourseOf at h
    split at h
    · obtain ⟨_, _, _, _, _, won⟩ := h
      exact absurd won lost
    · obtain ⟨rfl, _⟩ := Course.mk.inj h
      exact absurd rfl lost
  · exact ⟨answer, rfl⟩

theorem firstCode_lostTwice {course : Course} (h : course.LostTwice) :
    firstCode course.marks = some .connectCancelled := by
  obtain ⟨ran, cause, refused⟩ := h
  obtain ⟨e, lost⟩ := Option.ne_none_iff_exists'.mp ran
  rw [Course.marks, lost, refused]
  rfl

theorem firstCode_marks {course : Course} (h : ¬ course.LostTwice)
    (resolved : lost? course.race ≠ none → ∃ answer, course.resolution = some answer) :
    firstCode course.marks = none := by
  cases lost : lost? course.race with
  | none =>
    rw [Course.marks, lost]
    rcases course.resolution with _ | _ | _ <;> rfl
  | some e =>
    have ran : lost? course.race ≠ none := by simp [lost]
    obtain ⟨cause | resolution, answered⟩ := resolved ran
    · exact absurd ⟨ran, cause, answered⟩ h
    · rw [Course.marks, lost, answered]
      rfl

/-- What a connect leaves that fails and finds nothing recorded. -/
theorem lastError_of_failed {e : ConnectError} {course : Course} (fresh : c.lastError = none)
    (runs : Runs (c.connect endpoint port timeout) events (.error e, c'))
    (follows : CourseOf c endpoint port events course) :
    (course.LostTwice → c'.lastError = some .connectCancelled ∧ e.code = .dnsNameNotFound) ∧
    (¬ course.LostTwice → c'.lastError = some e.code) := by
  have blank : c.Shows [] := fresh
  obtain ⟨course', follows', shown, unresolved⟩ := connect_shows blank runs
  obtain rfl := follows.unique follows'
  have last : c'.lastError = some ((firstCode course.marks).getD e.code) :=
    shown.trans (firstCode_record _ _)
  constructor
  · intro twice
    obtain ⟨host, failed⟩ := unresolved twice
    obtain rfl := Except.error.inj failed
    rw [last, firstCode_lostTwice twice]
    exact ⟨rfl, rfl⟩
  · intro once
    rw [last, firstCode_marks once follows.resolved]
    rfl

/-- A connector remembers the first code recorded since its record was last cleared, and what
records and clears in a call is its marks: a race that is lost, the host's own resolution where it
succeeds, the failure of the connect, and a layer that fails alone. So a connect that fails and
finds nothing recorded leaves its code, but where the race was lost and the host did not resolve
either, it leaves that of the race. -/
theorem lastError_of_history :
    (∀ (c : Connector) (i : Invocation) c', i.Leaves c c' → ∃! marks, i.Marked c marks) ∧
    (∀ (c : Connector) calls marks c', Invoked c calls marks c' →
      c'.lastError = firstCode (earlier c.lastError ++ marks)) ∧
    ∀ (c : Connector) endpoint port timeout events e c' course, c.lastError = none →
      Runs (c.connect endpoint port timeout) events (.error e, c') →
      CourseOf c endpoint port events course →
      (course.LostTwice → c'.lastError = some .connectCancelled ∧ e.code = .dnsNameNotFound) ∧
      (¬ course.LostTwice → c'.lastError = some e.code) := by
  refine ⟨?_, ?_, ?_⟩
  · intro c i c' leaves
    obtain ⟨marks, marked, _⟩ := Invocation.exists_marked leaves _ (shows_earlier c)
    exact ⟨marks, marked, fun marks' marked' => marked'.unique marked⟩
  · exact fun c calls marks c' invoked => invoked.shows (shows_earlier c)
  · exact fun _ _ _ _ _ _ _ _ fresh runs follows => lastError_of_failed fresh runs follows

/-- A connect to a host that is cancelled, and then one that names nothing: the second finds a code
recorded and leaves it. -/
theorem lastError_of_history_kept :
    let c : Connector := ⟨{}, ⟨3⟩, none, none⟩
    ∃ i i' c₁ c₂, i.Leaves c c₁ ∧ (∃! marks, i.Marked c marks) ∧
      Invoked c [i, i'] [.clear, .record .connectCancelled, .record .connectFailed] c₂ ∧
      c₁.lastError = some ConnectError.cancelled.code ∧
      c₂.lastError = some .connectCancelled := by
  intro c
  obtain ⟨unique, history, fails⟩ := lastError_of_history
  have named : Target.ofEndpoint "h" 80 = .ok (.host "h" 80) := by decide +kernel
  have nothing : Target.ofEndpoint "" 0 = .error .emptyHost := by decide +kernel
  let c' : Connector := ⟨{}, ⟨3⟩, some ConnectError.cancelled.code, none⟩
  obtain ⟨events, runs, follows⟩ : ∃ events, Runs (c.connect "h" 80 none) events
      (.error .cancelled, c') ∧
      CourseOf c "h" 80 events ⟨none, some (.ok ⟨[.stream (.unix ⟨[115]⟩)]⟩)⟩ := by
    refine ⟨_, runs_host_cancelled named ⟨3⟩ (.stream (.unix ⟨[115]⟩)) 4, ?_⟩
    unfold CourseOf
    rw [named]
    exact ⟨[], _, rfl, .done _, .inl rfl, _, rfl⟩
  have once : ¬ Course.LostTwice ⟨none, some (.ok ⟨[.stream (.unix ⟨[115]⟩)]⟩)⟩ :=
    fun twice => absurd rfl twice.1
  have first : (Invocation.connect "h" 80 none events (.error .cancelled)).Leaves c c' := runs
  have second : (Invocation.connect "" 0 none []
      (.error (Target.Fault.toError .emptyHost))).Leaves c' c' := by
    have refused : Runs ((sequence "" 0 none).run.run c') []
        (.error (Target.Fault.toError .emptyHost), c') := by
      unfold sequence
      rw [nothing]
      exact .done _
    change Runs (c'.connect "" 0 none) [] _
    rw [connect_eq]
    exact runs_map_iff.mpr ⟨_, refused, rfl⟩
  have follows' : CourseOf c' "" 0 [] ⟨none, none⟩ := by
    unfold CourseOf
    rw [nothing]
  have calls : Invoked c _ [.clear, .record .connectCancelled, .record .connectFailed] _ :=
    .cons first ⟨_, follows, rfl⟩ (.cons second ⟨_, follows', rfl⟩ (.nil _))
  refine ⟨_, _, _, _, first, unique _ _ _ first, calls, ?_, ?_⟩
  · exact (fails c _ _ _ _ _ _ _ rfl runs follows).2 once
  · exact history _ _ _ _ calls

end StreamTransport.Connector
