import StreamTransport.Proofs.Connect.Accounting
import StreamTransport.Proofs.Connect.Runs

/-!
# No descriptor is lost

Whatever the kernel answers, a connect that fails leaves open what was open
before, and one that succeeds leaves open the socket it returns in addition.
-/

set_option autoImplicit false

namespace StreamTransport.Descriptors

open Program

/-- Events that start with the given descriptors open beside the others, leave the kept ones open
beside them, and on the way use open descriptors only. -/
structure Accounted (others : Set Descriptor) (given : List Descriptor) (events : List Event)
    (kept : List Descriptor) : Prop where
  usesOpen : UsesOpen (others ∪ {d | d ∈ given}) events
  left : openAfter (others ∪ {d | d ∈ given}) events = others ∪ {d | d ∈ kept}
  nodup : kept.Nodup
  apart : ∀ d ∈ kept, d ∉ others

/-- So it is in every run of a program, where the kernel hands out what is not in use. -/
def Accounts {α : Type} (others : Set Descriptor) (given : List Descriptor) (p : Program α)
    (kept : α → List Descriptor) : Prop :=
  ∀ events a, Runs p events a → Fresh (others ∪ {d | d ∈ given}) events →
    Accounted others given events (kept a)

/-- A failure keeps nothing. -/
def kept {ε α : Type} (descriptors : α → List Descriptor) : Except ε α → List Descriptor
  | .ok a => descriptors a
  | .error _ => []

def ofSocket (socket : Connection) : List Descriptor := [socket.descriptor]

def ofLayer (layer : Layer) : List Descriptor :=
  (layer.stream.watch.map Watch.descriptor).toList ++ layer.stream.descriptor.toList

variable {α : Type} {others : Set Descriptor} {given : List Descriptor} {p : Program α}
  {c : Connector} {endpoint : String} {port : UInt32} {timeout : Option Duration}

theorem accounts_of_meets {kept : α → List Descriptor} (fits : Fits others given)
    (meets : p.Meets (ledger others) given fun a held => held = kept a) :
    Accounts others given p kept := by
  intro events a runs fresh
  obtain ⟨obeyed, final⟩ := meets.of_every_run (fun _ _ => trivial) runs
  obtain ⟨uses, fits, left⟩ := fits.run (Set.Subset.refl _) obeyed fresh
  rw [final] at fits left
  exact ⟨uses, left, fits.nodup, fits.apart⟩

theorem fits_nil (others : Set Descriptor) : Fits others ([] : List Descriptor) :=
  ⟨by simp, by simp⟩

theorem fits_singleton {d : Descriptor} (h : d ∉ others) : Fits others ([d] : List Descriptor) :=
  ⟨by simp, by simp [h]⟩

theorem connect_accounts (lends : c.cancel.descriptor ∈ others)
    (own : endpoint.toList.head? ≠ some '|') :
    Accounts others [] (c.connect endpoint port timeout) fun outcome =>
      kept ofSocket outcome.1 :=
  accounts_of_meets (fits_nil _)
    (Connector.meets_connect lends own (fun _ _ => rfl) fun _ _ => rfl)

theorem openLayer_accounts (lends : c.cancel.descriptor ∈ others)
    (own : endpoint.toList.head? ≠ some '|') :
    Accounts others [] (c.openLayer endpoint port timeout) fun outcome =>
      kept ofLayer outcome.1 :=
  accounts_of_meets (fits_nil _)
    (Connector.meets_openLayer lends own (fun _ _ _ => rfl) fun _ _ => rfl)

theorem race_accounts {targets : List Alternate} {port : UInt16} {cancel : Option Cancellation}
    (lends : ∀ token, cancel = some token → token.descriptor ∈ others) :
    Accounts others [] (Race.run targets port cancel).run (kept ofSocket) := by
  refine accounts_of_meets (fits_nil _) (Attempt.meets_run_iff.mpr ?_)
  exact Race.meets_run lends (fun _ _ => rfl) fun _ => rfl

theorem connectWithin_accounts {socket : Socket} {address : SocketAddress} {cancel : Cancellation}
    (lends : cancel.descriptor ∈ others) (own : socket.descriptor ∉ others) :
    Accounts others [socket.descriptor] (socket.connectWithin address timeout cancel).run
      (kept fun _ => [socket.descriptor]) := by
  refine accounts_of_meets (fits_singleton own) (Attempt.meets_run_iff.mpr ?_)
  change Attempt.Meets _ (socket.descriptor ::ₘ 0) _ _ _
  exact Socket.meets_connectWithin socket lends rfl fun _ => rfl

theorem openLayer_pair (lends : c.cancel.descriptor ∈ others)
    (own : endpoint.toList.head? ≠ some '|') {events : List Event} {layer : Layer} {c' : Connector}
    (runs : Runs (c.openLayer endpoint port timeout) events (.ok layer, c')) :
    (ofLayer layer).length = 2 := by
  have meets : (c.openLayer endpoint port timeout).Meets (ledger others) 0 fun outcome _ =>
      ∀ layer, outcome.1 = .ok layer → (ofLayer layer).length = 2 := by
    refine Connector.meets_openLayer lends own (fun socket d c' => ?_) fun e c' => ?_
    · rintro _ ⟨⟩
      rfl
    · rintro _ ⟨⟩
  obtain ⟨_, pair⟩ := meets.of_every_run (fun _ _ => trivial) runs
  exact pair layer rfl

/-- Whatever the kernel answers, the open descriptors are accounted for after a connect, after a
connect that makes a layer, after a race, and after a connect within a time. -/
theorem connects_account (opened : Set Descriptor) :
    (∀ (c : Connector) endpoint port timeout, c.cancel.descriptor ∈ opened →
      endpoint.toList.head? ≠ some '|' →
      Accounts opened [] (c.connect endpoint port timeout) (kept ofSocket ·.1) ∧
      Accounts opened [] (c.openLayer endpoint port timeout) (kept ofLayer ·.1) ∧
      ∀ events layer c', Runs (c.openLayer endpoint port timeout) events (.ok layer, c') →
        (ofLayer layer).length = 2) ∧
    (∀ targets port (cancel : Option Cancellation),
      (∀ token, cancel = some token → token.descriptor ∈ opened) →
      Accounts opened [] (Race.run targets port cancel).run (kept ofSocket)) ∧
    (∀ (socket : Socket) address timeout (cancel : Cancellation), cancel.descriptor ∈ opened →
      socket.descriptor ∉ opened →
      Accounts opened [socket.descriptor] (socket.connectWithin address timeout cancel).run
        (kept fun _ => [socket.descriptor])) := by
  refine ⟨?_, ?_, ?_⟩
  · intro c endpoint port timeout lends own
    refine ⟨connect_accounts lends own, openLayer_accounts lends own, ?_⟩
    exact fun events layer c' => openLayer_pair lends own
  · intro targets port cancel lends
    exact race_accounts lends
  · intro socket address timeout cancel lends own
    exact connectWithin_accounts lends own

/-- A path that is connected, and a socket whose connect is cancelled. -/
theorem connects_account_path :
    let c : Connector := ⟨{}, ⟨3⟩, none, none⟩
    (∃ events c', Runs (c.connect "/s" 0 none) events (.ok ⟨4, .unix, .unix⟩, c') ∧
      Accounted {3} [] events [4]) ∧
    ∃ events, Runs (Socket.connectWithin ⟨5, .unix⟩ (.unix ⟨[115]⟩) none ⟨3⟩).run events
        (.error .cancelled) ∧
      Accounted {3} [5] events [] := by
  intro c
  obtain ⟨connects, _, within⟩ := connects_account {3}
  constructor
  · obtain ⟨raw, runs, _⟩ := Connector.exists_short_path c none 4
    have fresh : Fresh ({3} ∪ {d | d ∈ ([] : List Descriptor)})
        (Connector.granted 4 raw ⟨[1, 0], 2⟩ 65536 ++ c.cancel.look false) := by
      have opened : ∀ d, (.ok 4 : Reply Descriptor).toOption = some d → d ≠ 3 := by
        rintro _ ⟨⟩
        decide
      simpa [Fresh, Connector.granted, Cancellation.look, Event.opened?] using opened
    exact ⟨_, _, runs, (connects c "/s" 0 none (by simp [c]) (by simp)).1 _ _ runs fresh⟩
  · have looked := Attempt.runs_always (ε := ConnectError) (Cancellation.runs_isRequested ⟨3⟩ true)
    have closed : Runs (Descriptor.close 5) [⟨.close 5, ()⟩] () := .call _ (.done _)
    have runs : Runs (Socket.connectWithin ⟨5, .unix⟩ (.unix ⟨[115]⟩) none ⟨3⟩).run
        (Cancellation.look ⟨3⟩ true ++ [⟨.close 5, ()⟩]) (.error .cancelled) :=
      Attempt.runs_bind looked ((Attempt.runs_always closed).map rfl)
    have fresh : Fresh ({3} ∪ {d | d ∈ [5]})
        (Cancellation.look ⟨3⟩ true ++ [⟨.close 5, ()⟩]) := by
      simp [Fresh, Cancellation.look, Event.opened?]
    exact ⟨_, runs, within _ _ _ _ (by simp) (by simp) _ _ runs fresh⟩

end StreamTransport.Descriptors
