import StreamTransport.Proofs.System.Runs
import StreamTransport.Wait

/-!
# The attempts of a wait

A wait that is limited reads the clock once to fix its deadline, and once more
before every attempt. However often it is interrupted, an attempt asks for the
time that is left at its own reading, so none reaches past the deadline by a
millisecond, and none asks for nothing while time is left. A wait without a
deadline asks for no time in any attempt.
-/

set_option autoImplicit false

namespace StreamTransport.Wait

open Program

theorem millisLeft_le (deadline now : Nat) : millisLeft deadline now ≤ longestMillis :=
  Nat.min_le_right _ _

theorem millisLeft_eq_zero_iff {deadline now : Nat} :
    millisLeft deadline now = 0 ↔ deadline ≤ now := by
  have none := Duration.millisUp_eq_zero_iff ⟨deadline - now⟩
  have positive : 0 < longestMillis := by decide
  simp only at none
  rw [millisLeft, Nat.min_eq_zero_iff]
  omega

theorem millisLeft_lt {deadline now : Nat} (left : now < deadline) :
    now + millisLeft deadline now * 1000000 < deadline + 1000000 := by
  have asked : millisLeft deadline now ≤ Duration.millisUp ⟨deadline - now⟩ := Nat.min_le_left _ _
  have rounded := Duration.millisUp_lt ⟨deadline - now⟩
  have more := Nat.mul_le_mul_right 1000000 asked
  simp only at rounded
  omega

/-- One attempt and its answer. What it asks for goes by a reading of its own. -/
inductive Attempted (entries : List PollEntry) {signals : Nat}
    (answer : PollAnswer signals entries.length) : Option Nat → List Event → Prop
  | unlimited : Attempted entries answer none [⟨.poll signals entries none, answer⟩]
  | limited (deadline reading : Nat) : Attempted entries answer (some deadline)
      [⟨.clock, reading⟩, ⟨.poll signals entries (some (millisLeft deadline reading)), answer⟩]

/-- Attempts up to the first that is not interrupted. -/
inductive Retried (entries : List PollEntry) (deadline : Option Nat) :
    Nat → List Event → Reply (Fin entries.length → Bool) → Prop
  | returned {signals : Nat} {events : List Event} {flagged : Fin entries.length → Bool}
      (last : Attempted entries (.returned flagged : PollAnswer signals _) deadline events) :
      Retried entries deadline signals events (.ok flagged)
  | failed {signals : Nat} {events : List Event} {errno : Errno}
      (last : Attempted entries (.failed errno : PollAnswer signals _) deadline events) :
      Retried entries deadline signals events (.error errno)
  | interrupted {signals : Nat} {left : Fin signals} {first rest : List Event}
      {reply : Reply (Fin entries.length → Bool)}
      (attempted : Attempted entries (.interrupted left) deadline first)
      (again : Retried entries deadline left rest reply) :
      Retried entries deadline signals (first ++ rest) reply

/-- A whole wait: the deadline is fixed before anything is attempted. -/
inductive Waited (entries : List PollEntry) :
    Option Duration → List Event → Reply (Fin entries.length → Bool) → Prop
  | unlimited {signals : Nat} {events : List Event} {reply : Reply (Fin entries.length → Bool)}
      (retried : Retried entries none signals events reply) :
      Waited entries none (⟨.signalCount, signals⟩ :: events) reply
  | limited {timeout : Duration} {start signals : Nat} {events : List Event}
      {reply : Reply (Fin entries.length → Bool)}
      (retried : Retried entries (deadlineAt start timeout) signals events reply) :
      Waited entries (some timeout) (⟨.clock, start⟩ :: ⟨.signalCount, signals⟩ :: events) reply

section

variable {entries : List PollEntry} {deadline : Option Nat} {timeout : Option Duration}
  {events : List Event} {reply : Reply (Fin entries.length → Bool)}

theorem retried_of_runs {signals : Nat}
    (runs : Runs (attempts entries deadline signals) events reply) :
    Retried entries deadline signals events reply := by
  induction signals using Nat.strongRecOn generalizing events with
  | ind signals ih =>
    rw [attempts] at runs
    obtain ⟨asked, millis, polled, rfl, asks, polls⟩ := runs_bind_iff.mp runs
    obtain ⟨poll, answer, rest, rfl, performs, goesOn⟩ := runs_bind_iff.mp polls
    obtain rfl := runs_perform_iff.mp performs
    have attempted : Attempted entries answer deadline
        (asked ++ [⟨.poll signals entries millis, answer⟩]) := by
      cases deadline with
      | none =>
        cases asks
        exact .unlimited
      | some deadline =>
        cases asks with
        | call reading rest =>
          cases rest
          exact .limited deadline reading
    rw [← List.append_assoc]
    cases answer with
    | returned flagged =>
      cases goesOn
      rw [List.append_nil]
      exact .returned attempted
    | failed errno =>
      cases goesOn
      rw [List.append_nil]
      exact .failed attempted
    | interrupted left => exact .interrupted attempted (ih left left.isLt goesOn)

theorem waited_of_runs {result : Except Failure (Fin entries.length → Bool)}
    (runs : Runs (poll entries timeout).run events result) :
    ∃ reply, Waited entries timeout events reply ∧
      result = reply.mapError fun errno => .socket (.readiness errno "poll") := by
  obtain ⟨waited, reply, nothing, rfl, waits, last⟩ := runs_bind_iff.mp runs
  cases last
  refine ⟨reply, ?_, rfl⟩
  rw [List.append_nil]
  obtain ⟨first, deadline, rest, rfl, fixed, counts⟩ := runs_bind_iff.mp waits
  obtain ⟨count, signals, events, rfl, counted, tried⟩ := runs_bind_iff.mp counts
  obtain rfl := runs_perform_iff.mp counted
  have retried := retried_of_runs tried
  cases timeout with
  | none =>
    cases fixed
    exact .unlimited retried
  | some timeout =>
    cases fixed with
    | call start rest =>
      cases rest
      exact .limited retried

theorem Retried.runs {signals : Nat} (h : Retried entries deadline signals events reply) :
    Runs (attempts entries deadline signals) events reply := by
  induction h with
  | returned last =>
    rw [attempts]
    cases last with
    | unlimited => exact .call _ (.done _)
    | limited deadline reading => exact .call _ (.call _ (.done _))
  | failed last =>
    rw [attempts]
    cases last with
    | unlimited => exact .call _ (.done _)
    | limited deadline reading => exact .call _ (.call _ (.done _))
  | interrupted attempted _ ih =>
    rw [attempts]
    cases attempted with
    | unlimited => exact .call _ ih
    | limited deadline reading => exact .call _ (.call _ ih)

/-- Everything a wait may be answered is one of its runs. -/
theorem Waited.runs (h : Waited entries timeout events reply) :
    Runs (poll entries timeout).run events
      (reply.mapError fun errno => .socket (.readiness errno "poll")) := by
  cases h with
  | unlimited retried => exact .call _ (retried.runs.map rfl)
  | limited retried => exact .call _ (.call _ (retried.runs.map rfl))

/-- What is made of the answer to a wait asks for nothing more. -/
theorem waited_of_runs_map {α : Type} {f : (Fin entries.length → Bool) → α}
    {result : Except Failure α}
    (runs : Runs (poll entries timeout >>= fun flagged => pure (f flagged)).run events result) :
    ∃ reply, Waited entries timeout events reply ∧
      result = (reply.mapError fun errno => .socket (.readiness errno "poll")).map f := by
  obtain ⟨polled, answered, nothing, rfl, polls, last⟩ := runs_bind_iff.mp runs
  obtain ⟨reply, waited, rfl⟩ := waited_of_runs polls
  cases reply with
  | ok flagged =>
    cases last
    exact ⟨.ok flagged, by rwa [List.append_nil], rfl⟩
  | error errno =>
    cases last
    exact ⟨.error errno, by rwa [List.append_nil], rfl⟩

end

/-- What a wait takes for its deadline: its time after the moment it begins, if the clock can tell
that. -/
inductive FixesDeadline : Option Duration → List Event → Option Nat → Prop
  | unlimited (events : List Event) : FixesDeadline none events none
  | told {timeout : Duration} {start : Nat} (rest : List Event)
      (representable : start + timeout.nanos < clockLimit) :
      FixesDeadline (some timeout) (⟨.clock, start⟩ :: rest) (some (start + timeout.nanos))
  | beyond {timeout : Duration} {start : Nat} (rest : List Event)
      (late : clockLimit ≤ start + timeout.nanos) :
      FixesDeadline (some timeout) (⟨.clock, start⟩ :: rest) none

/-- The time asked for after a reading of the clock fits the deadline. -/
structure Fits (deadline reading millis : Nat) : Prop where
  bounded : millis ≤ 0x7FFFFFFF
  zero_iff : millis = 0 ↔ deadline ≤ reading
  short : reading < deadline → reading + millis * 1000000 < deadline + 1000000

/-- What an attempt may ask for after these events: no time without a deadline, and otherwise what
fits a reading that it follows directly. -/
def Asks : Option Nat → List Event → Option Nat → Prop
  | none, _, millis => millis = none
  | some deadline, before, millis => ∃ reading asked, before.getLast? = some ⟨.clock, reading⟩ ∧
      millis = some asked ∧ Fits deadline reading asked

/-- All attempts among the events ask for what they may. -/
def EachAsks (deadline : Option Nat) (events : List Event) : Prop :=
  ∀ before signals entries millis answer after,
    events = before ++ ⟨.poll signals entries millis, answer⟩ :: after → Asks deadline before millis

theorem fits_millisLeft (deadline reading : Nat) :
    Fits deadline reading (millisLeft deadline reading) where
  bounded := millisLeft_le _ _
  zero_iff := millisLeft_eq_zero_iff
  short := millisLeft_lt

section

variable {deadline : Option Nat} {first rest : List Event}

theorem Asks.after {before : List Event} {millis : Option Nat} (h : Asks deadline before millis)
    (earlier : List Event) : Asks deadline (earlier ++ before) millis := by
  cases deadline with
  | none => exact h
  | some deadline =>
    obtain ⟨reading, asked, last, h⟩ := h
    exact ⟨reading, asked, by simp [List.getLast?_append, last], h⟩

theorem EachAsks.append (h : EachAsks deadline first) (h' : EachAsks deadline rest) :
    EachAsks deadline (first ++ rest) := by
  intro before signals entries millis answer after cut
  rcases List.append_eq_append_iff.mp cut with ⟨behind, rfl, there⟩ | ⟨more, rfl, there⟩
  · exact (h' behind signals entries millis answer after there).after first
  · cases more with
    | nil =>
      have asks := (h' [] signals entries millis answer after there.symm).after before
      rwa [List.append_nil] at asks
    | cons e more =>
      obtain ⟨rfl, -⟩ := List.cons.inj there
      exact h before signals entries millis answer more rfl

theorem Attempted.eachAsks {entries : List PollEntry} {signals : Nat}
    {answer : PollAnswer signals entries.length} (h : Attempted entries answer deadline first) :
    EachAsks deadline first := by
  intro before signals' entries' millis answer' after cut
  cases h with
  | unlimited =>
    rcases before with _ | ⟨e, before⟩
    · obtain ⟨same, -⟩ := List.cons.inj cut
      cases same
      rfl
    · simp at cut
  | limited deadline reading =>
    rcases before with _ | ⟨e, _ | ⟨e', before⟩⟩
    · obtain ⟨same, -⟩ := List.cons.inj cut
      cases same
    · obtain ⟨rfl, polls⟩ := List.cons.inj cut
      obtain ⟨same, -⟩ := List.cons.inj polls
      cases same
      exact ⟨reading, _, rfl, rfl, fits_millisLeft _ _⟩
    · simp at cut

/-- Interruptions add attempts and nothing else. -/
theorem Retried.eachAsks {entries : List PollEntry} {signals : Nat}
    {reply : Reply (Fin entries.length → Bool)}
    (h : Retried entries deadline signals first reply) : EachAsks deadline first := by
  induction h with
  | returned last => exact last.eachAsks
  | failed last => exact last.eachAsks
  | interrupted attempted _ ih => exact attempted.eachAsks.append ih

theorem eachAsks_of_no_poll
    (h : ∀ e ∈ first, ∀ signals entries millis, e.request ≠ .poll signals entries millis) :
    EachAsks deadline first := by
  rintro before signals entries millis answer after rfl
  exact absurd rfl (h ⟨.poll signals entries millis, answer⟩ (by simp) signals entries millis)

end

/-- A wait keeps the time it is given. -/
def KeepsTime (timeout : Option Duration) (events : List Event) : Prop :=
  ∃ deadline, FixesDeadline timeout events deadline ∧ EachAsks deadline events

theorem Waited.keepsTime {entries : List PollEntry} {timeout : Option Duration}
    {events : List Event} {reply : Reply (Fin entries.length → Bool)}
    (waited : Waited entries timeout events reply) : KeepsTime timeout events := by
  cases waited with
  | @unlimited signals events _ retried =>
    have counted : EachAsks none [⟨.signalCount, signals⟩] := eachAsks_of_no_poll (by simp)
    exact ⟨none, .unlimited _, counted.append retried.eachAsks⟩
  | @limited timeout start signals events _ retried =>
    have fixed : EachAsks (deadlineAt start timeout) [⟨.clock, start⟩, ⟨.signalCount, signals⟩] :=
      eachAsks_of_no_poll (by simp)
    refine ⟨_, ?_, fixed.append retried.eachAsks⟩
    unfold deadlineAt
    split
    · rename_i representable
      exact .told _ representable
    · rename_i late
      exact .beyond _ (Nat.not_lt.mp late)

/-- Whatever a wait is answered and however often it is interrupted, it keeps the time it is given:
with a deadline the clock can tell, every attempt asks for a number of milliseconds that is zero
only where the deadline is reached and never reaches past it by one, and without a deadline every
attempt asks for no time. -/
theorem attempts_keep_time :
    (∀ descriptor direction timeout events result,
      Runs (one descriptor direction timeout).run events result →
        KeepsTime (some timeout) events) ∧
    ∀ descriptors timeout events result, Runs (any descriptors timeout).run events result →
      KeepsTime timeout events := by
  constructor
  · intro descriptor direction timeout events result runs
    obtain ⟨_, waited, _⟩ := waited_of_runs_map runs
    exact waited.keepsTime
  · intro descriptors timeout events result runs
    obtain ⟨_, waited, _⟩ := waited_of_runs_map runs
    exact waited.keepsTime

/-- A wait of one and a half milliseconds that is interrupted after one: two are asked for, and then
one. -/
theorem attempts_keep_time_interrupted :
    let events : List Event := [⟨.clock, (0 : Nat)⟩, ⟨.signalCount, (1 : Nat)⟩, ⟨.clock, (0 : Nat)⟩,
      ⟨.poll 1 [⟨3, .read⟩] (some 2), PollAnswer.interrupted 0⟩, ⟨.clock, (1000000 : Nat)⟩,
      ⟨.poll 0 [⟨3, .read⟩] (some 1), PollAnswer.returned fun _ => false⟩]
    Runs (one 3 .read ⟨1500000⟩).run events (.ok .timedOut) ∧
      KeepsTime (some ⟨1500000⟩) events := by
  intro events
  have interrupted : Attempted [⟨3, .read⟩] (.interrupted 0 : PollAnswer 1 _) (some 1500000) _ :=
    .limited 1500000 0
  have ended : Retried [⟨3, .read⟩] (some 1500000) 0 _ (.ok fun _ => false) :=
    .returned (.limited 1500000 1000000)
  have waited : Waited [⟨3, .read⟩] (some ⟨1500000⟩) events (.ok fun _ => false) :=
    .limited (.interrupted interrupted ended)
  have runs : Runs (one 3 .read ⟨1500000⟩).run events (.ok .timedOut) := waited.runs.map rfl
  exact ⟨runs, attempts_keep_time.1 3 .read _ events _ runs⟩

end StreamTransport.Wait
