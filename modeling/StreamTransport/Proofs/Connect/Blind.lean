import StreamTransport.Proofs.Connect.Courses

/-!
# Steps that look at no targets

A step is blind if it looks at nothing of the connector but its token and the
settings that are no matter of racing. What it returns and leaves of these is
then the same whatever targets there are and whatever has been recorded. The
host's own connect and configuring are blind.
-/

set_option autoImplicit false

namespace StreamTransport

namespace Program

variable {α β γ δ : Type}

/-- Programs that go on alike after related results are alike. -/
theorem bind_eq_of_map_eq {p : Program α} {q : Program β} {f : α → γ} {g : β → γ}
    {k : α → Program δ} {l : β → Program δ} (same : f <$> p = g <$> q)
    (onward : ∀ a b, f a = g b → k a = l b) : p >>= k = q >>= l := by
  -- both make the same requests, so their trees are walked together
  induction p generalizing q with
  | done a =>
    cases q with
    | done b => exact onward a b (Program.done.inj same)
    | call request next => cases same
  | call request next ih =>
    cases q with
    | done b => cases same
    | call request' next' =>
      obtain ⟨rfl, same⟩ := Program.call.inj same
      refine congrArg (Program.call request) (funext fun answer => ih answer ?_)
      exact congrFun (eq_of_heq same) answer

end Program

namespace Connector

/-- A connector without its record, its targets and the switch that asks for a race. -/
def bare (c : Connector) : Connector where
  settings := { c.settings with targets := [], remoteAssistance := false }
  cancel := c.cancel

namespace Step

variable {α β : Type}

/-- What a step returns, and what it leaves of a bare connector. -/
def results (p : Step α) (c : Connector) : Program (Except ConnectError α × Connector) :=
  (fun outcome => (outcome.1, outcome.2.bare)) <$> p.run.run c

/-- A step that looks at nothing but the bare connector. -/
def Blind (p : Step α) : Prop := ∀ c, p.results c = p.results c.bare

theorem results_bind (p : Step α) (f : α → Step β) (c : Connector) :
    (p >>= f).results c = p.run.run c >>= fun outcome =>
      match outcome.1 with
      | .ok a => (f a).results outcome.2
      | .error e => pure (.error e, outcome.2.bare) := by
  rw [results, run_bind, map_bind]
  refine bind_congr fun outcome => ?_
  rcases outcome with ⟨_ | _, c⟩
  · rfl
  · rfl

namespace Blind

theorem pure (a : α) : Blind (Pure.pure a : Step α) := fun _ => rfl

theorem throw (e : ConnectError) : Blind (MonadExcept.throw e : Step α) := fun _ => rfl

theorem bind {p : Step α} {f : α → Step β} (h : Blind p) (h' : ∀ a, Blind (f a)) :
    Blind (p >>= f) := by
  intro c
  rw [results_bind, results_bind]
  refine Program.bind_eq_of_map_eq (h c) ?_
  rintro ⟨r, c₁⟩ ⟨r', c₂⟩ related
  obtain ⟨rfl, same⟩ := Prod.mk.inj related
  dsimp only at same
  cases r with
  | error e =>
    dsimp only
    rw [same]
  | ok a =>
    dsimp only
    rw [h' a c₁, h' a c₂, same]

theorem get_bind {f : Connector → Step β} (same : ∀ c, f c = f c.bare) (h : ∀ c, Blind (f c)) :
    Blind (get >>= f) := by
  intro c
  change (f c).results c = (f c.bare).results c.bare
  rw [same c]
  exact h c.bare c

theorem changes {f : Connector → Connector} (h : ∀ c, (f c).bare = (f c.bare).bare) :
    Blind (modify f : Step PUnit) :=
  fun c => congrArg (fun left => Program.done (Except.ok PUnit.unit, left)) (h c)

theorem always (p : Program α) : Blind (always p) := by
  intro c
  rw [results, results, run_always, run_always, Functor.map_map, Functor.map_map]
  rfl

theorem ofAttempt (p : Attempt ConnectError α) : Blind (ofAttempt p) := by
  intro c
  rw [results, results, run_ofAttempt, run_ofAttempt, Functor.map_map, Functor.map_map]
  rfl

end Blind
end Step

theorem blind_connectResolved (host : String) (port : UInt16) (timeout : Option Duration) :
    Step.Blind (connectResolved host port timeout) := by
  refine (Step.Blind.always _).bind fun (answer : Outcome Resolution) => ?_
  cases answer with
  | error cause => exact (Step.Blind.always _).bind fun _ => .throw _
  | ok resolution =>
    refine (Step.Blind.changes fun _ => rfl).bind fun _ => .get_bind (fun _ => rfl) fun c => ?_
    refine (Step.Blind.ofAttempt _).bind fun found => (Step.Blind.always _).bind fun _ => ?_
    refine (Step.Blind.always _).bind fun connected => ?_
    cases connected with
    | ok socket => exact .pure _
    | error e => exact (Step.Blind.always _).bind fun _ => .throw _

theorem blind_recordLocal (socket : Connection) : Step.Blind (recordLocal socket) := by
  refine (Step.Blind.always _).bind fun named => ?_
  cases named with
  | ok ip => exact .changes fun _ => rfl
  | error cause =>
    refine (Step.Blind.always _).bind fun _ => ?_
    dsimp only
    split
    · exact (Step.Blind.always _).bind fun _ => .throw _
    · exact .throw _

theorem blind_configure (socket : Connection) : Step.Blind (configure socket) := by
  have options : Step.Blind (do
      Step.ofAttempt ((configureOptions (← get) socket).orElseClean socket.descriptor.close)
      return socket) :=
    .get_bind (fun _ => rfl) fun _ => (Step.Blind.ofAttempt _).bind fun _ => .pure _
  unfold configure
  split
  · exact (blind_recordLocal socket).bind fun _ => options
  · exact options

theorem blind_own (host : String) (port : UInt16) (timeout : Option Duration) :
    Step.Blind (connectResolved host port timeout >>= configure) :=
  (blind_connectResolved host port timeout).bind blind_configure

open Program (Runs runs_map_iff)

variable {c c' : Connector} {events : List Event} {r : Except ConnectError Connection}

theorem Step.Blind.results_eq {α : Type} {p : Step α} (h : Blind p) (same : c.bare = c'.bare) :
    p.results c = p.results c' := by
  rw [h c, same, ← h c']

/-- What such a step returns in a run, it returns from every connector that is the same but for what
it does not look at. -/
theorem Step.Blind.runs {p : Step Connection} (h : Blind p) (same : c.bare = c'.bare)
    {c₁ : Connector} (runs : Runs (p.run.run c) events (r, c₁)) :
    ∃ c₂, Runs (p.run.run c') events (r, c₂) := by
  have seen : Runs (p.results c) events (r, c₁.bare) := runs_map_iff.mpr ⟨_, runs, rfl⟩
  rw [h.results_eq same] at seen
  obtain ⟨⟨r', c₂⟩, runs', related⟩ := runs_map_iff.mp seen
  obtain ⟨rfl, _⟩ := Prod.mk.inj related
  exact ⟨c₂, runs'⟩

end Connector
end StreamTransport
