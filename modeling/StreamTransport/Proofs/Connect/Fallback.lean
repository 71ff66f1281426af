import StreamTransport.Proofs.Connect.Blind
import StreamTransport.Proofs.Connect.Runs

/-!
# When a race is run, and what is left of one that was lost

A connect to a host races its targets where the settings and the resolver call
for it. A race that wins hands over its socket, and the host is not connected
to. A race that is lost leaves nothing behind that the host's own connect looks
at: that connect returns what it would return without any targets.
-/

set_option autoImplicit false

namespace StreamTransport

namespace Connector

/-! ### The host's own connect -/

open Program (Runs runs_bind_iff runs_map_iff runs_perform_iff)

variable {c c' : Connector} {endpoint host : String} {port : UInt32} {hostPort : UInt16}
  {timeout : Option Duration} {events : List Event} {r : Except ConnectError Connection}

/-- A connector with other targets and another say on whether they are raced. -/
def withTargets (c : Connector) (targets : List Alternate) (assisted : Bool) : Connector :=
  { c with settings := { c.settings with targets := targets, remoteAssistance := assisted } }

theorem raceFor_none (h : c.settings.gatewayEnabled = true ∨ c.settings.targets = [])
    (host : String) (port : UInt16) : raceFor c host port = pure none := by
  have never : racesFor c.settings host = pure false := by
    unfold racesFor
    rw [if_pos]
    rcases h with h | h
    · simp [h]
    · simp [h]
  rw [raceFor, never]
  rfl

/-- Without a race, a connect to a host is the host's own. -/
theorem connect_own (named : Target.ofEndpoint endpoint port = .ok (.host host hostPort))
    (h : c.settings.gatewayEnabled = true ∨ c.settings.targets = []) :
    c.connect endpoint port timeout =
      recorded <$> (connectResolved host hostPort timeout >>= configure).run.run c := by
  rw [connect_host named, raceFor_none h]
  rfl

theorem fst_recorded (outcome : Except ConnectError Connection × Connector) :
    (recorded outcome).1 = outcome.1 := by
  rcases outcome with ⟨_ | _, c⟩
  · rfl
  · rfl

/-- Behind a gateway, targets do not matter. -/
theorem connect_gateway (named : Target.ofEndpoint endpoint port = .ok (.host host hostPort))
    (gateway : c.settings.gatewayEnabled = true) (targets : List Alternate) (assisted : Bool) :
    Prod.fst <$> c.connect endpoint port timeout =
      Prod.fst <$> (c.withTargets targets assisted).connect endpoint port timeout := by
  have value : ∀ c : Connector, c.settings.gatewayEnabled = true →
      Prod.fst <$> c.connect endpoint port timeout =
        Prod.fst <$> (connectResolved host hostPort timeout >>= configure).results c := by
    intro c gateway
    rw [connect_own named (.inl gateway), Step.results, Functor.map_map, Functor.map_map]
    exact map_congr fst_recorded
  have same : (connectResolved host hostPort timeout >>= configure).results c =
      (connectResolved host hostPort timeout >>= configure).results
        (c.withTargets targets assisted) := (blind_own host hostPort timeout).results_eq rfl
  rw [value c gateway, value (c.withTargets targets assisted) gateway, same]

/-! ### Resolvers -/

/-- What a resolver was asked, and what it answered. -/
def resolution? : Event → Option (String × Option UInt16 × Outcome Resolution)
  | ⟨.resolve host port, answer⟩ => some (host, port, answer)
  | _ => none

/-- The resolver is a function of host and port. -/
def AnsweredBy (resolver : String → Option UInt16 → Outcome Resolution) (events : List Event) :
    Prop :=
  ∀ e ∈ events, ∀ host port answer, resolution? e = some (host, port, answer) →
    answer = resolver host port

/-- An address that one of the targets resolves to. -/
def OfTarget (resolver : String → Option UInt16 → Outcome Resolution) (targets : List Alternate)
    (port : UInt16) (address : SocketAddress) : Prop :=
  ∃ target ∈ targets, ∃ resolution,
    resolver target.host (some (target.port.getD port)) = .ok resolution ∧
    ∃ candidate ∈ resolution.candidates, candidate.address = address

/-- A request that connects, connects to such an address. -/
def targeted (resolver : String → Option UInt16 → Outcome Resolution) (targets : List Alternate)
    (port : UInt16) (request : Call) : Prop :=
  ∀ d raw, request = .connect d raw →
    ∃ address, OfTarget resolver targets port address ∧ address.encode? = some raw

/-- The resolver answers, and connects are made on behalf of the targets only. -/
def racing (resolver : String → Option UInt16 → Outcome Resolution) (targets : List Alternate)
    (port : UInt16) : Contract Unit where
  allowed _ := targeted resolver targets port
  promised _ e := ∀ host port answer, resolution? e = some (host, port, answer) →
    answer = resolver host port
  next _ _ := ()

/-- What calls for a race. -/
def CalledFor (s : Settings) (resolver : String → Option UInt16 → Outcome Resolution)
    (host : String) : Prop :=
  s.gatewayEnabled = false ∧ s.targets ≠ [] ∧
    (s.remoteAssistance = true ∨ ∃ cause, resolver host none = .error cause)

/-- What is asked before a race: whether the host resolves, where the settings leave the race to
that. -/
def questions (s : Settings) (resolver : String → Option UInt16 → Outcome Resolution)
    (host : String) : List Event :=
  if s.gatewayEnabled = false ∧ s.targets ≠ [] ∧ s.remoteAssistance = false then
    [⟨.resolve host none, resolver host none⟩]
  else []

variable {resolver : String → Option UInt16 → Outcome Resolution} {targets : List Alternate}

theorem targeted_of_prepares {request : Call} (h : prepares request) :
    targeted resolver targets hostPort request := by
  rintro d raw rfl
  exact h.elim

theorem racing_ignores :
    (racing resolver targets hostPort).Ignores (targeted resolver targets hostPort) () :=
  fun _ h => ⟨h, fun _ => rfl⟩

theorem racing_prepares : (racing resolver targets hostPort).Ignores prepares () :=
  racing_ignores.mono fun _ => targeted_of_prepares

/-- A participant stands for one of the targets. -/
theorem enter_ofTarget {target : Alternate} (mem : target ∈ targets) :
    (Race.enter target hostPort).Meets (racing resolver targets hostPort) () fun entered _ =>
      ∀ p ∈ entered, OfTarget resolver targets hostPort p.candidate.address := by
  have note : ∀ notice, Program.Only prepares (Journal.note notice) := fun _ => .perform trivial
  have nobody : ∀ p ∈ (none : Option Participant),
      OfTarget resolver targets hostPort p.candidate.address := by simp
  refine Program.meets_bind.mpr ⟨targeted_of_prepares trivial, ?_⟩
  intro (answer : Outcome Resolution) promised
  have known : answer = resolver target.host (some (target.port.getD hostPort)) :=
    promised _ _ answer rfl
  change Program.Meets (racing resolver targets hostPort) () _ fun (entered : Option Participant)
    _ => ∀ p ∈ entered, OfTarget resolver targets hostPort p.candidate.address
  cases answer with
  | error cause => exact Program.meets_bind.mpr ((note _).meets racing_prepares fun _ => nobody)
  | ok resolution =>
    dsimp only
    split
    · exact nobody
    · rename_i candidate chosen
      have offered : OfTarget resolver targets hostPort candidate.address := by
        obtain ⟨i, _, found⟩ := Option.bind_eq_some_iff.mp chosen
        exact ⟨target, mem, resolution, known.symm, candidate, List.mem_of_getElem? found, rfl⟩
      have creates := Socket.prepares_create candidate.family candidate.sockType candidate.protocol
      refine Program.meets_bind.mpr (Attempt.meets_run_iff.mpr ?_)
      refine creates.meets racing_prepares (fun socket => ?_) fun cause => ?_
      · simpa using offered
      · exact Program.meets_bind.mpr ((note _).meets racing_prepares fun _ => nobody)

theorem line_ofTarget {rest : List Alternate} (sub : rest ⊆ targets) :
    (Race.line hostPort rest).Meets (racing resolver targets hostPort) () fun participants _ =>
      ∀ p ∈ participants, OfTarget resolver targets hostPort p.candidate.address := by
  induction rest with
  | nil => simp [Race.line]
  | cons target rest ih =>
    obtain ⟨mem, sub⟩ := List.cons_subset.mp sub
    refine Program.meets_bind.mpr ((enter_ofTarget mem).mono fun entered _ first => ?_)
    refine Program.meets_bind.mpr ((ih sub).mono fun participants _ others => ?_)
    intro p hp
    rcases List.mem_append.mp hp with hp | hp
    · exact first p (by simpa using hp)
    · exact others p hp

theorem run_targeted (cancel : Option Cancellation) :
    (Race.run targets hostPort cancel).Meets (racing resolver targets hostPort) ()
      (fun _ _ => True) fun _ _ => True := by
  have note : ∀ notice, Program.Only prepares (Journal.note notice) := fun _ => .perform trivial
  have unconnected : ∀ ds request, routine ds request →
      targeted resolver targets hostPort request :=
    fun _ _ h d raw connects => absurd connects (connectless_of_routine h d raw)
  simp only [Race.run, Attempt.meets_bind, Attempt.meets_always]
  refine (line_ofTarget (List.Subset.refl _)).mono fun participants _ offered => ?_
  refine (note _).meets racing_prepares fun _ => ?_
  have turn : (Race.connectInTurn cancel participants).Only
      (targeted resolver targets hostPort) := by
    refine Race.only_connectInTurn cancel (fun _ => targeted_of_prepares) unconnected ?_
    rintro p hp d raw encodes _ _ ⟨⟩
    exact ⟨_, offered p hp, encodes⟩
  exact turn.meets racing_ignores (fun _ => trivial) fun _ => trivial

theorem runs_isResolvable {asked : List Event} {found : Bool}
    (runs : Runs (isResolvable host) asked found) :
    ∃ answer : Outcome Resolution, asked = [⟨.resolve host none, answer⟩] ∧
      (found = false ↔ ∃ cause, answer = .error cause) := by
  obtain ⟨_, (answer : Outcome Resolution), _, rfl, resolves, ended⟩ := runs_bind_iff.mp runs
  obtain rfl := runs_perform_iff.mp resolves
  cases answer with
  | ok resolution =>
    cases ended
    exact ⟨_, rfl, iff_of_false Bool.true_eq_false.mp (by simp)⟩
  | error cause =>
    cases ended
    exact ⟨_, rfl, iff_of_true rfl ⟨cause, rfl⟩⟩

/-- A race is called for where the settings ask for one, and the resolver where they leave it to
that. -/
theorem runs_racesFor {s : Settings} {asked : List Event} {races : Bool}
    (runs : Runs (racesFor s host) asked races) (answered : AnsweredBy resolver asked) :
    asked = questions s resolver host ∧ (races = true ↔ CalledFor s resolver host) := by
  unfold racesFor at runs
  unfold questions CalledFor
  split at runs
  · rename_i never
    cases runs
    have ruled : ¬(s.gatewayEnabled = false ∧ s.targets ≠ []) := by
      rintro ⟨direct, some'⟩
      simp [direct, some'] at never
    constructor
    · rw [if_neg fun h => ruled ⟨h.1, h.2.1⟩]
    · exact iff_of_false Bool.false_ne_true fun h => ruled ⟨h.1, h.2.1⟩
  · rename_i possible
    obtain ⟨direct, some'⟩ : s.gatewayEnabled = false ∧ s.targets ≠ [] := by simpa using possible
    split at runs
    · rename_i assisted
      cases runs
      constructor
      · rw [if_neg (by simp [assisted])]
      · exact iff_of_true rfl ⟨direct, some', .inl assisted⟩
    · rename_i unassisted
      have off : s.remoteAssistance = false := Bool.eq_false_iff.mpr unassisted
      obtain ⟨_, found, _, rfl, looked, ended⟩ := runs_bind_iff.mp runs
      cases ended
      obtain ⟨answer, rfl, unresolved⟩ := runs_isResolvable looked
      obtain rfl : answer = resolver host none :=
        answered _ List.mem_cons_self host none answer rfl
      constructor
      · rw [if_pos ⟨direct, some', off⟩]
        rfl
      · simp [direct, some', off, ← unresolved]

/-- A race, where it is called for, comes after what is asked before it. -/
theorem runs_raceFor {first : List Event} {race : Option (Except ConnectError Connection)}
    (runs : Runs (raceFor c host hostPort) first race) (answered : AnsweredBy resolver first) :
    (race.isSome = true ↔ CalledFor c.settings resolver host) ∧
    (race = none → first = questions c.settings resolver host) ∧
    ∀ outcome, race = some outcome → ∃ run, first = questions c.settings resolver host ++ run ∧
      Runs (Race.run c.settings.targets hostPort (some c.cancel)).run run outcome := by
  obtain ⟨asked, races, run, rfl, looked, later⟩ := runs_bind_iff.mp runs
  obtain ⟨rfl, called⟩ := runs_racesFor looked fun e he => answered e (List.mem_append_left _ he)
  rw [← called]
  cases races with
  | false =>
    cases later
    exact ⟨by simp, fun _ => List.append_nil _, nofun⟩
  | true =>
    obtain ⟨_, raced, _, rfl, won, ended⟩ := runs_bind_iff.mp later
    cases ended
    refine ⟨by simp, nofun, ?_⟩
    rintro outcome ⟨⟩
    exact ⟨_, by rw [List.append_nil], won⟩

/-- A race connects on behalf of its targets only, and nothing is connected to before it. -/
theorem raceFor_targeted (c : Connector) (host : String) (hostPort : UInt16) :
    (raceFor c host hostPort).Meets (racing resolver c.settings.targets hostPort) () fun _ _ =>
      True := by
  refine Program.meets_bind.mpr ((prepares_racesFor _ _).meets racing_prepares fun races => ?_)
  cases races with
  | false => trivial
  | true =>
    have run : (Race.run c.settings.targets hostPort (some c.cancel)).Meets
        (racing resolver c.settings.targets hostPort) () (fun _ _ => True) fun _ _ => True :=
      run_targeted _
    exact Program.meets_bind.mpr (Program.Meets.mono run fun _ _ _ => trivial)

/-- A socket that a race has won is configured, and nothing is connected to any more. -/
theorem runs_won {socket : Connection} {rest : List Event}
    {outcome : Except ConnectError Connection × Connector}
    (runs : Runs ((afterRace host hostPort timeout (some (.ok socket)) >>= configure).run.run c)
      rest outcome) :
    Runs ((configure socket).run.run c) rest outcome ∧
      ∀ e ∈ rest, ∀ d raw, e.request ≠ .connect d raw := by
  have configured : Runs ((configure socket).run.run c) rest outcome := runs
  have connectless := configure_only (P := fun request => ∀ d raw, request ≠ .connect d raw) socket
    c (fun _ _ => connectless_of_routine) (by simp) (by simp)
  obtain ⟨obeyed, _⟩ := Program.Meets.of_every_run connectless (fun _ _ => trivial) configured
  exact ⟨configured, Contract.obeyed_iff_forall.mp obeyed⟩

/-- What the host's own connect returns after a lost race, it returns without targets. -/
theorem runs_targetless {own : List Event}
    {outcome : Except ConnectError Connection × Connector}
    (named : Target.ofEndpoint endpoint port = .ok (.host host hostPort))
    (runs : Runs ((connectResolved host hostPort timeout >>= configure).run.run
      (c.record .connectCancelled)) own outcome) (assisted : Bool) :
    ∃ c', Runs ((c.withTargets [] assisted).connect endpoint port timeout) own
      (outcome.1, c') := by
  have same : (c.record .connectCancelled).bare = (c.withTargets [] assisted).bare := rfl
  have seen : Runs _ own (outcome.1, outcome.2) := runs
  obtain ⟨c₂, alone⟩ := (blind_own host hostPort timeout).runs same seen
  refine ⟨(recorded (outcome.1, c₂)).2, ?_⟩
  rw [connect_own named (.inr rfl)]
  exact runs_map_iff.mpr ⟨_, alone, Prod.ext (fst_recorded _) rfl⟩

/-- A connect to a host that is raced or not: what comes first is what is asked, and the race where
one is called for. Without one, the host's own connect is all that follows. What is connected to in
the race belongs to a target, so an address of the host itself is connected to only where a target
resolves to it too. -/
structure EndsByRace (c : Connector) (resolver : String → Option UInt16 → Outcome Resolution)
    (endpoint : String) (port : UInt32) (timeout : Option Duration) (host : String)
    (hostPort : UInt16) (first : List Event) (race : Option (Except ConnectError Connection))
    (rest : List Event) (r : Except ConnectError Connection) : Prop where
  called : race.isSome = true ↔ CalledFor c.settings resolver host
  raced : ∀ outcome, race = some outcome → ∃ run,
    first = questions c.settings resolver host ++ run ∧
    Runs (Race.run c.settings.targets hostPort (some c.cancel)).run run outcome
  unraced : race = none → first = questions c.settings resolver host ∧
    ∃ c', Runs ((connectResolved host hostPort timeout >>= configure).run.run c) rest (r, c')
  targeted : ∀ e ∈ first, targeted resolver c.settings.targets hostPort e.request
  won : ∀ socket, race = some (.ok socket) →
    (∃ c', Runs ((configure socket).run.run c) rest (r, c')) ∧
    ∀ e ∈ rest, ∀ d raw, e.request ≠ .connect d raw
  cancelled : race = some (.error .cancelled) → r = .error .cancelled ∧ rest = []
  lost : ∀ e, race = some (.error e) → e ≠ .cancelled →
    ∃ own, rest = ⟨.note (.raceFailed host e), ()⟩ :: own ∧ ∀ assisted,
      (∃ c', Runs ((c.withTargets [] assisted).connect endpoint port timeout) own (r, c')) ∧
      ∀ own' r' c', Runs ((c.withTargets [] assisted).connect endpoint port timeout) own' (r', c') →
        AnsweredAlike own own' → own' = own ∧ r' = r

theorem endsByRace (named : Target.ofEndpoint endpoint port = .ok (.host host hostPort))
    (runs : Runs (c.connect endpoint port timeout) events (r, c'))
    (answered : AnsweredBy resolver events) :
    ∃ first race rest, events = first ++ rest ∧
      EndsByRace c resolver endpoint port timeout host hostPort first race rest r := by
  obtain ⟨first, race, rest, outcome, rfl, raced, later, ended⟩ := runs_connect_host named runs
  have value : outcome.1 = r := by rw [← fst_recorded, ended]
  have early : AnsweredBy resolver first := fun e he => answered e (List.mem_append_left _ he)
  obtain ⟨called, unasked, ran⟩ := runs_raceFor raced early
  have kept : (racing resolver c.settings.targets hostPort).Kept () first :=
    Contract.kept_iff_forall.mpr early
  obtain ⟨obeyed, _⟩ := (raceFor_targeted c host hostPort).of_runs raced kept
  refine ⟨first, race, rest, rfl, called, ran, ?_, Contract.obeyed_iff_forall.mp obeyed, ?_, ?_, ?_⟩
  · rintro rfl
    exact ⟨unasked rfl, outcome.2, value ▸ later⟩
  · rintro socket rfl
    obtain ⟨configured, connectless⟩ := runs_won later
    exact ⟨⟨outcome.2, value ▸ configured⟩, connectless⟩
  · rintro rfl
    cases later
    exact ⟨value.symm, rfl⟩
  · rintro e rfl lost
    obtain ⟨own, rfl, own'⟩ := runs_lost lost later
    refine ⟨own, rfl, fun assisted => ?_⟩
    obtain ⟨c₁, alone⟩ := runs_targetless named own' assisted
    rw [value] at alone
    refine ⟨⟨c₁, alone⟩, fun own' r' c₂ alone' alike => ?_⟩
    obtain ⟨same, outcome⟩ := alone.eq_of_answeredAlike alone' alike
    exact ⟨same.symm, (Prod.mk.inj outcome).1.symm⟩

/-- A connect to a host runs a race where it is called for, and is the host's own connect where it
is not. A race that wins hands over its socket, one that is cancelled ends the connect, and one that
is lost is followed by what the connect does without targets. Behind a gateway, what a connect asks
for and returns depends on no targets at all. -/
theorem lost_race_traceless (c : Connector) (endpoint : String) (port : UInt32)
    (timeout : Option Duration) (host : String) (hostPort : UInt16)
    (named : Target.ofEndpoint endpoint port = .ok (.host host hostPort)) :
    (∀ resolver events r c', Runs (c.connect endpoint port timeout) events (r, c') →
      AnsweredBy resolver events → ∃ first race rest, events = first ++ rest ∧
        EndsByRace c resolver endpoint port timeout host hostPort first race rest r) ∧
    (c.settings.gatewayEnabled = true → ∀ targets assisted,
      Prod.fst <$> c.connect endpoint port timeout =
        Prod.fst <$> (c.withTargets targets assisted).connect endpoint port timeout) := by
  constructor
  · exact fun resolver events r c' runs answered => endsByRace named runs answered
  · exact fun gateway targets assisted => connect_gateway named gateway targets assisted

/-- A race whose only target does not resolve, before a host that does not resolve either; a target
that is not raced because the host resolves; and a connect behind a gateway. -/
theorem lost_race_traceless_unresolved :
    let nowhere : Outcome Resolution := .error (.system ⟨2⟩)
    let nobody : Outcome Resolution := .ok ⟨[]⟩
    let raced : Connector :=
      ⟨{ remoteAssistance := true, targets := [⟨"t", none⟩] }, ⟨3⟩, none, none⟩
    let unraced : Connector := ⟨{ targets := [⟨"t", none⟩] }, ⟨3⟩, none, none⟩
    let gateway : Connector := ⟨{ gatewayEnabled := true }, ⟨3⟩, none, none⟩
    (∃ events r, Runs (raced.connect "h" 80 none) events r ∧
      AnsweredBy (fun _ _ => nowhere) events ∧ ∃ first race rest, events = first ++ rest ∧
        race.isSome = true ∧
        EndsByRace raced (fun _ _ => nowhere) "h" 80 none "h" 80 first race rest r.1) ∧
    (∃ events r, Runs (unraced.connect "h" 80 none) events r ∧
      AnsweredBy (fun _ _ => nobody) events ∧ ∃ first rest, events = first ++ rest ∧
        first = [⟨.resolve "h" none, nobody⟩] ∧
        EndsByRace unraced (fun _ _ => nobody) "h" 80 none "h" 80 first none rest r.1) ∧
    Prod.fst <$> gateway.connect "h" 80 none =
      Prod.fst <$> (gateway.withTargets [⟨"t", none⟩] true).connect "h" 80 none := by
  intro nowhere nobody raced unraced gateway
  have named : Target.ofEndpoint "h" 80 = .ok (.host "h" 80) := by
    simp [Target.ofEndpoint, Target.afterScheme?, Target.vsockScheme]
  refine ⟨?_, ?_, ?_⟩
  · obtain ⟨events, r, runs, answered⟩ : ∃ events r, Runs (raced.connect "h" 80 none) events r ∧
        AnsweredBy (fun _ _ => nowhere) events := by
      refine ⟨[⟨.resolve "t" (some 80), nowhere⟩, ⟨.note (.alternateSkipped "t" (.system ⟨2⟩)), ()⟩,
        ⟨.note (.racing 0 1), ()⟩, ⟨.note (.raceFailed "h" .noCandidate), ()⟩,
        ⟨.resolve "h" (some 80), nowhere⟩, ⟨.note (.resolvingFailed "h" (.system ⟨2⟩)), ()⟩],
        (.error (.resolve "h"), raced.record .connectCancelled), ?_, ?_⟩
      · rw [connect_host named]
        exact .call _ (.call _ (.call _ (.call _ (.call _ (.call _ (.done _))))))
      · simp [AnsweredBy, resolution?, nowhere]
    obtain ⟨first, race, rest, cut, ends⟩ := (lost_race_traceless raced _ _ _ _ _ named).1 _ _ _ _
      runs answered
    have called : race.isSome = true := ends.called.mpr ⟨rfl, by simp [raced], .inl rfl⟩
    exact ⟨events, r, runs, answered, first, race, rest, cut, called, ends⟩
  · obtain ⟨events, r, runs, answered⟩ : ∃ events r, Runs (unraced.connect "h" 80 none) events r ∧
        AnsweredBy (fun _ _ => nobody) events := by
      refine ⟨[⟨.resolve "h" none, nobody⟩, ⟨.resolve "h" (some 80), nobody⟩],
        (.error (.noMatchingFamily "h" "usable"), unraced.record .dnsNameNotFound), ?_, ?_⟩
      · rw [connect_host named]
        exact .call _ (.call _ (.done _))
      · simp [AnsweredBy, resolution?, nobody]
    obtain ⟨first, race, rest, cut, ends⟩ := (lost_race_traceless unraced _ _ _ _ _ named).1
      _ _ _ _ runs answered
    have uncalled : ¬CalledFor unraced.settings (fun _ _ => nobody) "h" := by
      simp [CalledFor, unraced, nobody]
    obtain rfl : race = none := by
      simpa using mt ends.called.mp uncalled
    exact ⟨events, r, runs, answered, first, rest, cut, (ends.unraced rfl).1, ends⟩
  · exact (lost_race_traceless gateway _ _ _ _ _ named).2 rfl _ _

end Connector
end StreamTransport
