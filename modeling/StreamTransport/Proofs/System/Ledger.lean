import Mathlib.Data.Multiset.Filter
import Mathlib.Data.Set.Insert
import StreamTransport.Proofs.System.Routine

/-!
# Who owns which descriptor

A ledger holds the descriptors that a program owns. What the kernel opens is
entered and what the program closes is struck off. The program may speak of its
own descriptors and of those it is lent, and close its own only.

The kernel hands out numbers that are not in use. Then a program that keeps a
ledger uses open descriptors only, closes none of them twice, and leaves open
what was open before and what the ledger holds in the end.
-/

set_option autoImplicit false

namespace StreamTransport

/-- The descriptor that an event opened. -/
def Event.opened? : Event → Option Descriptor
  | ⟨.socket _ _ _, answer⟩ => Except.toOption answer
  | ⟨.watchCreate, answer⟩ => Except.toOption answer
  | ⟨.eventCreate, answer⟩ => Except.toOption answer
  | _ => none

def Call.closed? : Call → Option Descriptor
  | close d => some d
  | _ => none

/-- What is open after an event. -/
def Event.openAfter (opened : Set Descriptor) (e : Event) : Set Descriptor :=
  {d | e.opened? = some d ∨ (d ∈ opened ∧ e.request.closed? ≠ some d)}

namespace Descriptors

/-- What is open after some events. -/
def openAfter (opened : Set Descriptor) (events : List Event) : Set Descriptor :=
  events.foldl Event.openAfter opened

/-- The kernel opens no descriptor that is open already. -/
def Fresh (opened : Set Descriptor) : List Event → Prop
  | [] => True
  | e :: rest => (∀ d, e.opened? = some d → d ∉ opened) ∧ Fresh (e.openAfter opened) rest

/-- Every request, a close among them, speaks of descriptors that are open when it is made. -/
def UsesOpen (opened : Set Descriptor) : List Event → Prop
  | [] => True
  | e :: rest => (∀ d ∈ e.request.names, d ∈ opened) ∧ UsesOpen (e.openAfter opened) rest

end Descriptors

/-- The ledger of a program that is lent some descriptors. -/
def ledger (lent : Set Descriptor) : Contract (Multiset Descriptor) where
  allowed held request :=
    (∀ d ∈ request.names, d ∈ lent ∨ d ∈ held) ∧ ∀ d, request.closed? = some d → d ∈ held
  promised _ _ := True
  next held e :=
    match e.opened?, e.request.closed? with
    | some d, _ => d ::ₘ held
    | none, some d => held.erase d
    | none, none => held

section

variable {lent : Set Descriptor} {held : Multiset Descriptor}

theorem closed?_eq_some_iff {request : Call} {d : Descriptor} :
    request.closed? = some d ↔ request = .close d := by
  cases request <;> simp [Call.closed?]

theorem closed?_of_opened? {e : Event} {d : Descriptor} (h : e.opened? = some d) :
    e.request.closed? = none := by
  rcases e with ⟨request, answer⟩
  cases request <;> simp_all [Event.opened?, Call.closed?]

theorem closed?_of_routine {request : Call} (h : request.isRoutine = true) :
    request.closed? = none := by
  cases request <;> simp_all [Call.isRoutine, Call.closed?]

theorem opened?_of_routine {request : Call} (h : request.isRoutine = true)
    (answer : request.Answer) : (⟨request, answer⟩ : Event).opened? = none := by
  cases request <;> simp_all [Call.isRoutine, Event.opened?]

theorem ledger_next_opened {e : Event} {d : Descriptor} (h : e.opened? = some d) :
    (ledger lent).next held e = d ::ₘ held := by
  simp [ledger, h]

theorem ledger_next_closed {e : Event} {d : Descriptor} (h : e.request.closed? = some d) :
    (ledger lent).next held e = held.erase d := by
  cases opened : e.opened? with
  | none => simp [ledger, opened, h]
  | some d' => simp [closed?_of_opened? opened] at h

theorem ledger_next_neither {e : Event} (h : e.opened? = none) (h' : e.request.closed? = none) :
    (ledger lent).next held e = held := by
  simp [ledger, h, h']

theorem ledger_allows {request : Call} (names : ∀ d ∈ request.names, d ∈ lent ∨ d ∈ held)
    (keeps : request.closed? = none) : (ledger lent).allowed held request := by
  refine ⟨names, fun d closed => ?_⟩
  simp [keeps] at closed

theorem ledger_ignores {ds : List Descriptor} (h : ∀ d ∈ ds, d ∈ lent ∨ d ∈ held) :
    (ledger lent).Ignores (routine ds) held := by
  rintro request ⟨kind, names⟩
  have shut := closed?_of_routine kind
  refine ⟨ledger_allows (fun d hd => h d (names hd)) shut, fun answer => ?_⟩
  exact ledger_next_neither (opened?_of_routine kind answer) shut

/-- What a ledger held and does not hold any more was closed. -/
theorem closed_of_ledger {d : Descriptor} {events : List Event} (before : d ∈ held)
    (gone : d ∉ (ledger lent).after held events) : ∃ e ∈ events, e.request.closed? = some d := by
  induction events generalizing held with
  | nil => exact absurd before gone
  | cons e rest ih =>
    by_cases here : e.request.closed? = some d
    · exact ⟨e, List.mem_cons_self, here⟩
    · have still : d ∈ (ledger lent).next held e := by
        cases opened : e.opened? with
        | some d' => exact ledger_next_opened opened ▸ Multiset.mem_cons_of_mem before
        | none =>
          cases closed : e.request.closed? with
          | none => exact ledger_next_neither opened closed ▸ before
          | some d' =>
            have other : d ≠ d' := by
              rintro rfl
              exact here closed
            exact ledger_next_closed closed ▸ (Multiset.mem_erase_of_ne other).mpr before
      obtain ⟨e', he', closed⟩ := ih still gone
      exact ⟨e', List.mem_cons_of_mem _ he', closed⟩

/-- What was opened and is not held in the end was closed in between. -/
theorem closed_after_opened {d : Descriptor} {e : Event} {before after : List Event}
    (opened : e.opened? = some d) (gone : d ∉ (ledger lent).after held (before ++ e :: after)) :
    ∃ e' ∈ after, e'.request.closed? = some d := by
  rw [Contract.after, List.foldl_append, List.foldl_cons] at gone
  refine closed_of_ledger ?_ gone
  rw [ledger_next_opened opened]
  exact Multiset.mem_cons_self d _

end

namespace Descriptors

variable {lent others : Set Descriptor} {held : Multiset Descriptor} {events : List Event}

/-- A ledger that fits what is open: it holds every descriptor once, and no other holds it. -/
structure Fits (others : Set Descriptor) (held : Multiset Descriptor) : Prop where
  nodup : held.Nodup
  apart : ∀ d ∈ held, d ∉ others

/-- The descriptors that are open beside the others are those that the ledger holds. -/
theorem Fits.step {e : Event} (fits : Fits others held)
    (allowed : (ledger lent).allowed held e.request)
    (fresh : ∀ d, e.opened? = some d → d ∉ others ∪ {d | d ∈ held}) :
    Fits others ((ledger lent).next held e) ∧
      e.openAfter (others ∪ {d | d ∈ held}) = others ∪ {d | d ∈ (ledger lent).next held e} := by
  cases opened : e.opened? with
  | some d =>
    obtain ⟨other, held'⟩ : d ∉ others ∧ d ∉ held := by simpa using fresh d opened
    rw [ledger_next_opened opened]
    refine ⟨⟨Multiset.nodup_cons.mpr ⟨held', fits.nodup⟩, ?_⟩, ?_⟩
    · intro d' h
      rcases Multiset.mem_cons.mp h with rfl | h
      · exact other
      · exact fits.apart d' h
    · ext d'
      simp [Event.openAfter, opened, closed?_of_opened? opened, or_left_comm, eq_comm]
  | none =>
    cases closed : e.request.closed? with
    | some d =>
      have mem : d ∈ held := allowed.2 d closed
      rw [ledger_next_closed closed]
      refine ⟨⟨fits.nodup.erase d, fun d' h => fits.apart d' (Multiset.mem_of_mem_erase h)⟩, ?_⟩
      ext d'
      have kept : d' ∈ others → d ≠ d' := by
        rintro h rfl
        exact fits.apart d mem h
      simp only [Event.openAfter, opened, closed, fits.nodup.mem_erase_iff, Set.mem_ofPred_eq,
        Set.mem_union]
      grind
    | none =>
      rw [ledger_next_neither opened closed]
      exact ⟨fits, by ext d'; simp [Event.openAfter, opened, closed]⟩

/-- A program that keeps a ledger uses open descriptors only, and leaves those of the others and
what the ledger holds in the end. -/
theorem Fits.run (fits : Fits others held) (lends : lent ⊆ others)
    (obeyed : (ledger lent).Obeyed held events) (fresh : Fresh (others ∪ {d | d ∈ held}) events) :
    UsesOpen (others ∪ {d | d ∈ held}) events ∧ Fits others ((ledger lent).after held events) ∧
      openAfter (others ∪ {d | d ∈ held}) events =
        others ∪ {d | d ∈ (ledger lent).after held events} := by
  induction events generalizing held with
  | nil => exact ⟨trivial, fits, rfl⟩
  | cons e rest ih =>
    obtain ⟨allowed, obeyed⟩ := obeyed
    obtain ⟨new, fresh⟩ := fresh
    obtain ⟨fits', same⟩ := fits.step allowed new
    rw [same] at fresh
    obtain ⟨uses, final, left⟩ := ih fits' obeyed fresh
    refine ⟨⟨fun d hd => ?_, by rwa [same]⟩, final, ?_⟩
    · exact (allowed.1 d hd).imp (fun h => lends h) id
    · rw [openAfter, List.foldl_cons, same]
      exact left

end Descriptors

end StreamTransport
