import StreamTransport.Connect.Connector
import StreamTransport.Proofs.System.Contracts
import StreamTransport.Proofs.Wait.Attempts

/-!
# How long a wait lasts

The clock never goes back, and the kernel gives up an attempt that found nothing
no sooner than the time it was asked for. Then a wait that ends with nothing
ready has lasted its time, or the longest time that one attempt can ask for,
whichever is less: the first attempt that finds nothing ends the wait, and
where more was left than it could ask for the rest is not waited for.
-/

set_option autoImplicit false

namespace StreamTransport

open Program

/-- An event may take so long: the clock is told as it stands meanwhile, and an attempt to wait that
finds nothing takes no less than it asked for. -/
def Event.Takes : Event → Nat → Nat → Prop
  | ⟨.clock, told⟩, began, ended => Nat.le began told ∧ Nat.le told ended
  | ⟨.poll _ entries millis, answer⟩, began, ended =>
    match millis, (answer : PollAnswer _ entries.length) with
    | some millis, .returned flagged =>
      began ≤ ended ∧ ((∀ i, flagged i = false) → began + millis * 1000000 ≤ ended)
    | _, _ => began ≤ ended
  | _, began, ended => began ≤ ended

/-- From one moment to another, events may happen in this order. -/
inductive Elapses : Nat → List Event → Nat → Prop
  | idle {start finish : Nat} (later : start ≤ finish) : Elapses start [] finish
  | event {start began ended finish : Nat} {e : Event} {rest : List Event} (later : start ≤ began)
      (takes : e.Takes began ended) (after : Elapses ended rest finish) :
      Elapses start (e :: rest) finish

theorem Event.Takes.le {e : Event} {began ended : Nat} (h : e.Takes began ended) :
    began ≤ ended := by
  rcases e with ⟨request, answer⟩
  cases request with
  | clock => exact Nat.le_trans h.1 h.2
  | poll signals entries millis =>
    cases millis with
    | none => cases answer <;> exact h
    | some millis =>
      cases (answer : PollAnswer signals entries.length) with
      | returned flagged => exact h.1
      | failed errno => exact h
      | interrupted left => exact h
  | _ => exact h

theorem Elapses.le {start finish : Nat} {events : List Event} (h : Elapses start events finish) :
    start ≤ finish := by
  induction h with
  | idle later => exact later
  | event later takes _ ih => exact Nat.le_trans later (Nat.le_trans takes.le ih)

theorem elapses_append_iff {start finish : Nat} {first rest : List Event} :
    Elapses start (first ++ rest) finish ↔
      ∃ middle, Elapses start first middle ∧ Elapses middle rest finish := by
  constructor
  · intro h
    induction first generalizing start with
    | nil => exact ⟨start, .idle (Nat.le_refl _), h⟩
    | cons e first ih =>
      cases h with
      | event later takes after =>
        obtain ⟨middle, before, after⟩ := ih after
        exact ⟨middle, .event later takes before, after⟩
  · rintro ⟨middle, before, after⟩
    induction before with
    | idle later =>
      cases after with
      | idle later' => exact .idle (Nat.le_trans later later')
      | event later' takes after => exact .event (Nat.le_trans later later') takes after
    | event later takes _ ih => exact .event later takes (ih after)

/-- What takes no time may happen at one moment. -/
theorem elapses_at_once {moment : Nat} {events : List Event}
    (h : ∀ e ∈ events, e.Takes moment moment) : Elapses moment events moment := by
  induction events with
  | nil => exact .idle (Nat.le_refl _)
  | cons e rest ih =>
    have first := h e List.mem_cons_self
    exact .event (Nat.le_refl _) first (ih fun e' there => h e' (List.mem_cons_of_mem _ there))

namespace Wait

/-- The longest time one attempt can ask for. -/
def longestAttempt : Nat := longestMillis * 1000000

theorem least_le_millisLeft (deadline now : Nat) :
    min (deadline - now) longestAttempt ≤ millisLeft deadline now * 1000000 := by
  have rounded : deadline - now ≤ Duration.millisUp ⟨deadline - now⟩ * 1000000 :=
    Duration.le_millisUp _
  have clamped : millisLeft deadline now * 1000000 =
      min (Duration.millisUp ⟨deadline - now⟩ * 1000000) longestAttempt :=
    Nat.mul_min_mul_right _ _ _ |>.symm
  omega

section

variable {entries : List PollEntry} {start finish : Nat} {events : List Event}
  {flagged : Fin entries.length → Bool}

/-- The last attempt, if it finds nothing, takes what it asked for. -/
theorem Attempted.least_le {signals deadline : Nat}
    (attempted : Attempted entries (.returned flagged : PollAnswer signals _) (some deadline)
      events)
    (nothing : ∀ i, flagged i = false) (elapses : Elapses start events finish) :
    min deadline (start + longestAttempt) ≤ finish := by
  cases attempted with
  | limited deadline reading =>
    cases elapses with
    | event later told elapses =>
      cases elapses with
      | event later' waits elapses =>
        have begun : _ ≤ reading := told.1
        have read : reading ≤ _ := told.2
        have asked := waits.2 nothing
        have least := least_le_millisLeft deadline reading
        have last := elapses.le
        omega

/-- Interruptions do not make a wait shorter. -/
theorem Retried.least_le {signals deadline : Nat}
    (retried : Retried entries (some deadline) signals events (.ok flagged))
    (nothing : ∀ i, flagged i = false) (elapses : Elapses start events finish) :
    min deadline (start + longestAttempt) ≤ finish := by
  generalize answered : (Except.ok flagged : Reply _) = reply at retried
  induction retried generalizing start with
  | returned last =>
    obtain rfl := Except.ok.inj answered
    exact last.least_le nothing elapses
  | failed last => cases answered
  | interrupted attempted again ih =>
    obtain ⟨middle, before, after⟩ := elapses_append_iff.mp elapses
    have later := before.le
    have rest := ih after answered
    omega

theorem Waited.least_le {timeout : Duration} {deadline : Nat}
    (waited : Waited entries (some timeout) events (.ok flagged))
    (fixes : FixesDeadline (some timeout) events (some deadline))
    (nothing : ∀ i, flagged i = false) (elapses : Elapses start events finish) :
    start + min timeout.nanos longestAttempt ≤ finish := by
  cases waited with
  | @limited _ told _ _ _ retried =>
    cases fixes with
    | told rest representable =>
      rw [deadlineAt, if_pos representable] at retried
      cases elapses with
      | event later reads elapses =>
        cases elapses with
        | event later' counts elapses =>
          have begun : _ ≤ told := reads.1
          have read : told ≤ _ := reads.2
          have counted := counts.le
          have least := retried.least_le nothing elapses
          omega

end

/-- A wait from moment zero that is not interrupted and finds nothing, after this reading. -/
def silent (entries : List PollEntry) (timeout : Duration) (reading : Nat) : List Event :=
  [⟨.clock, (0 : Nat)⟩, ⟨.signalCount, (0 : Nat)⟩, ⟨.clock, reading⟩,
    ⟨.poll 0 entries (some (millisLeft timeout.nanos reading)),
      PollAnswer.returned fun _ => false⟩]

section

variable {timeout : Duration} (entries : List PollEntry)

theorem fixesDeadline_silent (representable : timeout.nanos < clockLimit) (reading : Nat) :
    FixesDeadline (some timeout) (silent entries timeout reading) (some timeout.nanos) := by
  have moment : 0 + timeout.nanos = timeout.nanos := Nat.zero_add _
  rw [← moment] at representable
  have told := FixesDeadline.told (silent entries timeout reading).tail representable
  rwa [moment] at told

theorem waited_silent (representable : timeout.nanos < clockLimit) (reading : Nat) :
    Waited entries (some timeout) (silent entries timeout reading) (.ok fun _ => false) := by
  have fixed : deadlineAt 0 timeout = some timeout.nanos := by
    rw [deadlineAt, Nat.zero_add, if_pos representable]
  have last : Attempted entries (.returned fun _ => false : PollAnswer 0 _)
      (some timeout.nanos) _ := .limited timeout.nanos reading
  rw [← fixed] at last
  exact .limited (.returned last)

/-- It can take any time that is long enough: the clock is read at the deadline, or at once where
the deadline is further away than an attempt can ask for. -/
theorem exists_elapses_silent {elapsed : Nat}
    (enough : min timeout.nanos longestAttempt ≤ elapsed) :
    ∃ reading, Elapses 0 (silent entries timeout reading) elapsed := by
  have elapses : ∀ reading, reading + millisLeft timeout.nanos reading * 1000000 ≤ elapsed →
      Elapses 0 (silent entries timeout reading) elapsed := by
    intro reading late
    have still : reading ≤ elapsed := Nat.le_of_add_right_le late
    have reads : Event.Takes ⟨.clock, reading⟩ 0 reading := ⟨Nat.zero_le _, Nat.le_refl _⟩
    have zero : Event.Takes ⟨.clock, (0 : Nat)⟩ 0 0 := ⟨Nat.le_refl _, Nat.le_refl _⟩
    exact .event (Nat.le_refl _) zero (.event (Nat.le_refl _) (Nat.le_refl _)
      (.event (Nat.le_refl _) reads (.event (Nat.le_refl _) ⟨still, fun _ => late⟩
        (.idle (Nat.le_refl _)))))
  by_cases short : timeout.nanos ≤ longestAttempt
  · refine ⟨timeout.nanos, elapses _ ?_⟩
    rw [millisLeft_eq_zero_iff.mpr (Nat.le_refl _)]
    omega
  · refine ⟨0, elapses _ ?_⟩
    have asked : millisLeft timeout.nanos 0 * 1000000 ≤ longestAttempt :=
      Nat.mul_le_mul_right _ (millisLeft_le _ _)
    omega

end

/-! ### What the waits make of it -/

section

variable {timeout : Duration} {events : List Event}

theorem waited_of_timedOut {descriptor : Descriptor} {direction : Direction}
    (runs : Runs (one descriptor direction timeout).run events (.ok .timedOut)) :
    ∃ flagged, (∀ i, flagged i = false) ∧
      Waited [⟨descriptor, direction⟩] (some timeout) events (.ok flagged) := by
  obtain ⟨_ | flagged, waited, ended⟩ := waited_of_runs_map runs
  · cases ended
  · refine ⟨flagged, ?_, waited⟩
    rintro ⟨i, bound⟩
    obtain rfl : i = 0 := by simpa using bound
    have same : Readiness.timedOut = if flagged ⟨0, bound⟩ then .ready else .timedOut :=
      Except.ok.inj ended
    simpa using same

theorem waited_of_none {descriptors : List Descriptor} {limit : Option Duration}
    (runs : Runs (any descriptors limit).run events (.ok none)) :
    ∃ flagged, (∀ i, flagged i = false) ∧
      Waited (descriptors.map (⟨·, .read⟩)) limit events (.ok flagged) := by
  obtain ⟨_ | flagged, waited, ended⟩ := waited_of_runs_map runs
  · cases ended
  · refine ⟨flagged, fun i => ?_, waited⟩
    have missing : none = ((List.finRange _).find? flagged).map Fin.val := Except.ok.inj ended
    have missing := Option.map_eq_none_iff.mp missing.symm
    simpa using List.find?_eq_none.mp missing i (List.mem_finRange i)

end

/-- With these events around it, a wait of this time may last so long. -/
def MayLast (timeout : Duration) (elapsed : Nat) (before waited after : List Event) : Prop :=
  ∃ start began finish deadline, FixesDeadline (some timeout) waited (some deadline) ∧
    Elapses start before began ∧ Elapses began waited (began + elapsed) ∧
    Elapses (began + elapsed) after finish

section

variable {timeout : Duration} {elapsed : Nat} {before waited after : List Event}

theorem MayLast.least_le (h : MayLast timeout elapsed before waited after)
    {entries : List PollEntry} {flagged : Fin entries.length → Bool}
    (nothing : ∀ i, flagged i = false)
    (ends : Waited entries (some timeout) waited (.ok flagged)) :
    min timeout.nanos longestAttempt ≤ elapsed := by
  obtain ⟨start, began, finish, deadline, fixes, -, lasts, -⟩ := h
  have least := ends.least_le fixes nothing lasts
  omega

/-- Any time that is long enough is possible, where what is around the wait takes none. -/
theorem exists_mayLast (representable : timeout.nanos < clockLimit)
    (enough : min timeout.nanos longestAttempt ≤ elapsed) (entries : List PollEntry)
    (first : Elapses 0 before 0) (last : Elapses elapsed after elapsed) :
    ∃ reading, MayLast timeout elapsed before (silent entries timeout reading) after := by
  obtain ⟨reading, elapses⟩ := exists_elapses_silent entries enough
  refine ⟨reading, 0, 0, elapsed, _, fixesDeadline_silent entries representable reading, first, ?_⟩
  rw [Nat.zero_add]
  exact ⟨elapses, last⟩

theorem runs_one_silent (representable : timeout.nanos < clockLimit) (descriptor : Descriptor)
    (direction : Direction) (reading : Nat) :
    Runs (one descriptor direction timeout).run (silent [⟨descriptor, direction⟩] timeout reading)
      (.ok .timedOut) :=
  (waited_silent _ representable reading).runs.map rfl

theorem runs_any_silent (representable : timeout.nanos < clockLimit)
    (descriptors : List Descriptor) (reading : Nat) :
    Runs (any descriptors (some timeout)).run
      (silent (descriptors.map (⟨·, .read⟩)) timeout reading) (.ok none) := by
  refine (waited_silent _ representable reading).runs.map ?_
  have missing : ∀ n, (List.finRange n).find? (fun _ => false) = none := by simp
  change Program.done (Except.ok (((List.finRange _).find? fun _ => false).map Fin.val)) = _
  rw [missing]
  rfl

end

end Wait
end StreamTransport
