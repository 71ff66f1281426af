import StreamTransport.System.Program

/-!
# Runs of programs

A run of a program is a way through its tree: the requests that were made, each
with the answer it got, and the result. Every answer is possible in a run, so
what holds of all runs holds against every system: what a handler makes of a
program is one of its runs.
-/

set_option autoImplicit false

namespace StreamTransport

/-- A request and the answer it got. -/
structure Event where
  request : Call
  answer : request.Answer

namespace Program

variable {α β σ : Type}

inductive Runs : Program α → List Event → α → Prop
  | done (a : α) : Runs (.done a) [] a
  | call {request : Call} {next : request.Answer → Program α} (answer : request.Answer)
      {events : List Event} {a : α} (rest : Runs (next answer) events a) :
      Runs (.call request next) (⟨request, answer⟩ :: events) a

theorem Runs.bind {p : Program α} {f : α → Program β} {first rest : List Event} {a : α} {b : β}
    (h : Runs p first a) (h' : Runs (f a) rest b) : Runs (p >>= f) (first ++ rest) b := by
  induction h with
  | done _ => exact h'
  | call answer _ ih => exact .call answer (ih h')

/-- The events of a program that is run on a system. -/
def trace (handle : (request : Call) → σ → request.Answer × σ) : Program α → σ → List Event
  | .done _, _ => []
  | .call request next, s =>
    let (answer, s) := handle request s
    ⟨request, answer⟩ :: trace handle (next answer) s

theorem runs_trace (handle : (request : Call) → σ → request.Answer × σ) (p : Program α) (s : σ) :
    Runs p (p.trace handle s) (p.run handle s).1 := by
  induction p generalizing s with
  | done a => exact .done a
  | call request next ih => exact .call _ (ih _ _)

/-- A run followed by one that makes no request. -/
theorem Runs.map {p : Program α} {f : α → Program β} {events : List Event} {a : α} {b : β}
    (h : Runs p events a) (h' : f a = .done b) : Runs (p >>= f) events b := by
  have rest : Runs (f a) [] b := h' ▸ .done b
  simpa using h.bind rest

/-- A run of a program that goes on is a run of its first part and a run of what follows. -/
theorem runs_bind_iff {p : Program α} {f : α → Program β} {events : List Event} {b : β} :
    Runs (p >>= f) events b ↔
      ∃ first a rest, events = first ++ rest ∧ Runs p first a ∧ Runs (f a) rest b := by
  constructor
  · intro runs
    induction p generalizing events with
    | done a => exact ⟨[], a, events, rfl, .done a, runs⟩
    | call request next ih =>
      cases runs with
      | call answer rest =>
        obtain ⟨first, a, others, rfl, h, h'⟩ := ih answer rest
        exact ⟨_ :: first, a, others, rfl, .call answer h, h'⟩
  · rintro ⟨first, a, rest, rfl, h, h'⟩
    exact h.bind h'

theorem runs_perform_iff {request : Call} {events : List Event} {answer : request.Answer} :
    Runs (perform request) events answer ↔ events = [⟨request, answer⟩] := by
  constructor
  · intro runs
    cases runs with
    | call answer rest =>
      cases rest
      rfl
  · rintro rfl
    exact .call answer (.done answer)

theorem runs_map_iff {p : Program α} {f : α → β} {events : List Event} {b : β} :
    Runs (f <$> p) events b ↔ ∃ a, Runs p events a ∧ f a = b := by
  rw [map_eq_pure_bind, runs_bind_iff]
  constructor
  · rintro ⟨first, a, rest, rfl, h, h'⟩
    cases h'
    exact ⟨a, by simpa using h, rfl⟩
  · rintro ⟨a, h, rfl⟩
    exact ⟨events, a, [], by simp, h, .done _⟩

/-- The answers decide where a run ends and with what. -/
theorem Runs.unique {p : Program α} {first first' rest rest' : List Event} {a a' : α}
    (h : Runs p first a) (h' : Runs p first' a') (same : first ++ rest = first' ++ rest') :
    first = first' ∧ a = a' := by
  induction h generalizing first' with
  | done a =>
    cases h'
    exact ⟨rfl, rfl⟩
  | call answer _ ih =>
    cases h' with
    | call answer' tail =>
      obtain ⟨here, later⟩ := List.cons.inj same
      obtain rfl := eq_of_heq (Event.mk.inj here).2
      obtain ⟨rfl, rfl⟩ := ih tail later
      exact ⟨rfl, rfl⟩

end Program

/-- Asked the same after the same events, the system answers the same. -/
def AnsweredAlike (events events' : List Event) : Prop :=
  ∀ before request answer answer' after after', events = before ++ ⟨request, answer⟩ :: after →
    events' = before ++ ⟨request, answer'⟩ :: after' → answer = answer'

theorem AnsweredAlike.tail {e : Event} {events events' : List Event}
    (h : AnsweredAlike (e :: events) (e :: events')) : AnsweredAlike events events' := by
  rintro before request answer answer' after after' rfl rfl
  exact h (e :: before) request answer answer' after after' rfl rfl

/-- Two runs of a program that are answered alike are the same. -/
theorem Program.Runs.eq_of_answeredAlike {α : Type} {p : Program α} {events events' : List Event}
    {a a' : α} (h : Runs p events a) (h' : Runs p events' a')
    (alike : AnsweredAlike events events') : events = events' ∧ a = a' := by
  induction h generalizing events' with
  | done a =>
    cases h'
    exact ⟨rfl, rfl⟩
  | call answer _ ih =>
    cases h' with
    | call answer' tail =>
      obtain rfl := alike [] _ answer answer' _ _ rfl rfl
      obtain ⟨rfl, rfl⟩ := ih tail alike.tail
      exact ⟨rfl, rfl⟩

namespace Attempt

open Program

variable {ε α β : Type} {p : Attempt ε α} {first rest : List Event}

theorem runs_bind {f : α → Attempt ε β} {a : α} {r : Except ε β} (h : Runs p.run first (.ok a))
    (h' : Runs (f a).run rest r) : Runs (p >>= f).run (first ++ rest) r :=
  h.bind h'

theorem runs_always {p : Program α} {a : α} (h : Runs p first a) :
    Runs (always p : Attempt ε α).run first (.ok a) :=
  h.map rfl

theorem runs_orElseClean_ok {clean : Program Unit} {a : α} (h : Runs p.run first (.ok a)) :
    Runs (p.orElseClean clean).run first (.ok a) :=
  h.map rfl

theorem runs_orElseClean_error {clean : Program Unit} {e : ε} (h : Runs p.run first (.error e))
    (h' : Runs clean rest ()) : Runs (p.orElseClean clean).run (first ++ rest) (.error e) :=
  h.bind (h'.map rfl)

end Attempt
end StreamTransport
