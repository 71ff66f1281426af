import StreamTransport.Proofs.Connect.Steps
import StreamTransport.Proofs.System.Ledger

/-!
# The descriptors of a connect

What each part of a connect sequence does to the ledger: what it takes, what it
has opened when it succeeds, and that a failure leaves nothing behind. The rest
of the ledger, `held`, is arbitrary in every rule.
-/

set_option autoImplicit false

namespace StreamTransport

variable {lent : Set Descriptor} {held : Multiset Descriptor}

theorem Descriptor.meets_close {d : Descriptor} {post : Unit → Multiset Descriptor → Prop}
    (h : post () held) : d.close.Meets (ledger lent) (d ::ₘ held) post := by
  refine ⟨by simp [ledger, Call.names, Call.closed?], fun _ _ => ?_⟩
  rw [ledger_next_closed rfl, Multiset.erase_cons_head]
  exact h

theorem ledger_tunes {d : Descriptor} (mine : d ∈ held) :
    (ledger lent).Ignores (tunes d) held := by
  have own : ∀ d' ∈ [d], d' ∈ lent ∨ d' ∈ held := by simp [mine]
  exact (ledger_ignores own).mono fun _ => routine_of_tunes

theorem ledger_note {notice : Notice} {post : Unit → Multiset Descriptor → Prop}
    (h : post () held) : (Journal.note notice : Program Unit).Meets (ledger lent) held post := by
  have notes : Program.Only (routine []) (Journal.note notice) := .note notice
  exact notes.meets (ledger_ignores (by simp)) fun _ => h

theorem Cancellation.ledger_isRequested {token : Cancellation}
    {post : Bool → Multiset Descriptor → Prop} (lends : token.descriptor ∈ lent)
    (h : ∀ set, post set held) : token.isRequested.Meets (ledger lent) held post :=
  token.routine_isRequested.meets (ledger_ignores (by simp [lends])) h

theorem Target.head_of_external {endpoint : String} {port : UInt32} {d : Nat}
    (h : ofEndpoint endpoint port = .ok (.external d)) : endpoint.toList.head? = some '|' := by
  unfold ofEndpoint at h
  dsimp only at h
  split at h
  · simp at h
  · rename_i bar
    simp [bar]
  · simp at h
  · grind

theorem Target.external_of_head {endpoint : String} {port : UInt32} {target : Target}
    (bar : endpoint.toList.head? = some '|') (h : ofEndpoint endpoint port = .ok target) :
    ∃ d, target = .external d := by
  obtain ⟨tail, chars⟩ := List.head?_eq_some_iff.mp bar
  simp only [ofEndpoint, chars] at h
  split at h
  · exact ⟨_, (Except.ok.inj h).symm⟩
  · simp at h

theorem ConnectionKind.ofFamily_ne_external (family : Family) : ofFamily family ≠ .external := by
  cases family <;> simp [ofFamily]

namespace Socket

theorem meets_create {family : Family} {sockType protocol : Int}
    {ok : Socket → Multiset Descriptor → Prop} {err : Failure → Multiset Descriptor → Prop}
    (success : ∀ d, ok ⟨d, family⟩ (d ::ₘ held)) (failure : ∀ cause, err cause held) :
    (create family sockType protocol).Meets (ledger lent) held ok err := by
  have allowed : (ledger lent).allowed held (.socket family sockType protocol) :=
    ledger_allows (by simp [Call.names]) rfl
  refine Attempt.meets_bind.mpr (Attempt.meets_ofReply.mpr ⟨allowed, fun answer _ => ?_⟩)
  cases answer with
  | ok d => exact success d
  | error errno => exact failure _

theorem meets_request (socket : Socket) {address : SocketAddress}
    {ok : Reply Unit → Multiset Descriptor → Prop}
    {err : Failure → Multiset Descriptor → Prop} (mine : socket.descriptor ∈ held)
    (success : ∀ answer, ok answer held) (failure : ∀ cause, err cause held) :
    (socket.request address).Meets (ledger lent) held ok err := by
  unfold request
  split
  · exact failure _
  · refine Attempt.meets_always.mpr ⟨ledger_allows (by simp [Call.names, mine]) rfl, ?_⟩
    exact fun answer _ => success answer

/-- A connect keeps the socket or closes it. -/
theorem meets_connect (socket : Socket) {address : SocketAddress} {kind : ConnectionKind}
    {ok : Connection → Multiset Descriptor → Prop} {err : Failure → Multiset Descriptor → Prop}
    (success : ok ⟨socket.descriptor, socket.family, kind⟩ (socket.descriptor ::ₘ held))
    (failure : ∀ cause, err cause held) :
    (socket.connect address kind).Meets (ledger lent) (socket.descriptor ::ₘ held) ok err := by
  rw [connect, Attempt.meets_orElseClean, Attempt.meets_bind]
  refine meets_request socket (by simp) (fun answer => ?_) fun cause => ?_
  · cases answer with
    | ok _ => exact success
    | error errno => exact Descriptor.meets_close (failure _)
  · exact Descriptor.meets_close (failure cause)

theorem meets_startConnect (socket : Socket) {address : SocketAddress}
    {ok : StartedConnect → Multiset Descriptor → Prop} {err : Failure → Multiset Descriptor → Prop}
    (success : ok ⟨socket.descriptor, socket.family⟩ (socket.descriptor ::ₘ held))
    (failure : ∀ cause, err cause held) :
    (socket.startConnect address).Meets (ledger lent) (socket.descriptor ::ₘ held) ok err := by
  have mode := Descriptor.routine_setNonblocking (d := socket.descriptor) true
  rw [startConnect, Attempt.meets_orElseClean, Attempt.meets_bind]
  refine mode.meets (ledger_ignores (by simp)) (fun _ => ?_) fun cause => ?_
  · dsimp only
    rw [Attempt.meets_bind]
    refine meets_request socket (by simp) (fun answer => ?_) fun cause => ?_
    · cases answer with
      | ok _ => exact success
      | error errno =>
        dsimp only
        split
        · exact success
        · exact Descriptor.meets_close (failure _)
    · exact Descriptor.meets_close (failure cause)
  · exact Descriptor.meets_close (failure cause)

end Socket

/-- A watch that is created on an own descriptor is one descriptor more. -/
theorem Watch.meets_create {target : Descriptor} {interest : Interest}
    {ok : Watch → Multiset Descriptor → Prop} {err : Failure → Multiset Descriptor → Prop}
    (mine : target ∈ held) (success : ∀ d, ok ⟨d, target⟩ (d ::ₘ held))
    (failure : ∀ cause, err cause held) :
    (Watch.create target interest).Meets (ledger lent) held ok err := by
  have creates : (ledger lent).allowed held .watchCreate :=
    ledger_allows (by simp [Call.names]) rfl
  have adds : ∀ d, (ledger lent).allowed (d ::ₘ held) (.watchAdd d target interest) := by
    intro d
    exact ledger_allows (by simp [Call.names, mine]) rfl
  refine Attempt.meets_bind.mpr (Attempt.meets_ofReply.mpr ⟨creates, fun answer _ => ?_⟩)
  cases answer with
  | error errno => exact failure _
  | ok d =>
    refine Attempt.meets_bind.mpr (Attempt.meets_orElseClean.mpr ?_)
    refine Attempt.meets_ofReply.mpr ⟨adds d, fun answer _ => ?_⟩
    cases answer with
    | error errno => exact Descriptor.meets_close (failure _)
    | ok _ => exact success d

/-- A connect within a time keeps the socket it is given or closes it, and closes its watch. -/
theorem Socket.meets_connectWithin (socket : Socket) {address : SocketAddress}
    {timeout : Option Duration} {cancel : Cancellation}
    {ok : Connection → Multiset Descriptor → Prop}
    {err : ConnectError → Multiset Descriptor → Prop} (lends : cancel.descriptor ∈ lent)
    (success : ok ⟨socket.descriptor, socket.family, .ofFamily address.family⟩
      (socket.descriptor ::ₘ held))
    (failure : ∀ e, err e held) :
    (socket.connectWithin address timeout cancel).Meets (ledger lent) (socket.descriptor ::ₘ held)
      ok err := by
  have mode := Descriptor.routine_setNonblocking (d := socket.descriptor) false
  simp only [connectWithin, Attempt.meets_bind, Attempt.meets_always]
  refine Cancellation.ledger_isRequested lends fun set => ?_
  cases set with
  | true =>
    simp only [if_true, Attempt.meets_bind, Attempt.meets_always]
    exact Descriptor.meets_close (failure _)
  | false =>
    simp only [Bool.false_eq_true, if_false, Attempt.meets_bind, Attempt.meets_mapError,
      Attempt.meets_orElseClean, Attempt.meets_always]
    refine meets_startConnect socket ?_ fun cause => failure _
    refine Watch.meets_create (by simp) (fun d => ?_) fun cause =>
      Descriptor.meets_close (failure _)
    have confirm : (StartedConnect.confirm ⟨socket.descriptor, socket.family⟩
        ⟨d, socket.descriptor⟩ address (effectiveTimeout timeout) cancel).Only
          (routine [socket.descriptor, d, cancel.descriptor]) :=
      StartedConnect.routine_confirm (by simp) (by simp) (by simp) (by simp) address _
    refine confirm.meets (ledger_ignores (by simp [lends])) (fun _ => ?_) fun e => ?_
    · refine Descriptor.meets_close (mode.meets (ledger_ignores (by simp)) (fun _ => success) ?_)
      exact fun cause => Descriptor.meets_close (failure _)
    · exact Descriptor.meets_close (Descriptor.meets_close (failure e))

/-! ### The race -/

namespace Race

def owned (participants : List Participant) : Multiset Descriptor :=
  participants.map fun p => p.socket.descriptor

@[simp] theorem owned_nil : owned [] = 0 := rfl

@[simp] theorem owned_cons (p : Participant) (rest : List Participant) :
    owned (p :: rest) = p.socket.descriptor ::ₘ owned rest := rfl

theorem owned_append (first rest : List Participant) :
    owned (first ++ rest) = owned first + owned rest := by
  simp [owned]

theorem meets_enter {target : Alternate} {port : UInt16}
    {post : Option Participant → Multiset Descriptor → Prop}
    (h : ∀ p : Option Participant, post p (owned p.toList + held)) :
    (enter target port).Meets (ledger lent) held post := by
  have resolves : (ledger lent).allowed held
      (.resolve target.host (some (target.port.getD port))) :=
    ledger_allows (by simp [Call.names]) rfl
  have out : post none held := by simpa [owned] using h none
  refine Program.meets_bind.mpr ⟨resolves, fun (answer : Outcome Resolution) _ => ?_⟩
  change Program.Meets (ledger lent) held _ post
  cases answer with
  | error cause => exact Program.meets_bind.mpr (ledger_note out)
  | ok resolution =>
    dsimp only
    split
    · exact out
    · rename_i candidate _
      rw [Program.meets_bind, Attempt.meets_run_iff]
      refine Socket.meets_create (fun d => ?_) fun cause => ?_
      · simpa [owned] using h (some ⟨target.host, ⟨d, candidate.family⟩, candidate⟩)
      · exact Program.meets_bind.mpr (ledger_note out)

theorem meets_line {port : UInt16} {targets : List Alternate}
    {post : List Participant → Multiset Descriptor → Prop}
    (h : ∀ participants, post participants (owned participants + held)) :
    (line port targets).Meets (ledger lent) held post := by
  induction targets generalizing held post with
  | nil => simpa [owned, line] using h []
  | cons target rest ih =>
    simp only [line, Program.meets_bind]
    refine meets_enter fun first => ih fun others => ?_
    have joined : owned others + (owned first.toList + held) =
        owned (first.toList ++ others) + held := by
      rw [owned_append, ← Multiset.add_assoc, Multiset.add_comm (owned others)]
    rw [joined]
    exact h _

theorem meets_closeAll {participants : List Participant}
    {post : PUnit → Multiset Descriptor → Prop} (h : post () held) :
    (closeAll participants).Meets (ledger lent) (owned participants + held) post := by
  induction participants with
  | nil => simpa [closeAll] using h
  | cons p rest ih =>
    rw [owned_cons, Multiset.cons_add]
    exact Program.meets_bind.mpr (Descriptor.meets_close ih)

theorem meets_cancelRequested {cancel : Option Cancellation}
    {post : Bool → Multiset Descriptor → Prop}
    (lends : ∀ token, cancel = some token → token.descriptor ∈ lent) (h : ∀ set, post set held) :
    (cancelRequested cancel).Meets (ledger lent) held post := by
  cases cancel with
  | none => exact h false
  | some token => exact token.ledger_isRequested (lends token rfl) h

/-- A race opens a socket for each participant and leaves the winner's, if there is one. -/
theorem meets_connectInTurn {cancel : Option Cancellation} {participants : List Participant}
    {ok : Connection → Multiset Descriptor → Prop}
    {err : ConnectError → Multiset Descriptor → Prop}
    (lends : ∀ token, cancel = some token → token.descriptor ∈ lent)
    (success : ∀ socket : Connection, socket.kind ≠ .external →
      ok socket (socket.descriptor ::ₘ held))
    (failure : ∀ e, err e held) :
    (connectInTurn cancel participants).Meets (ledger lent) (owned participants + held) ok err := by
  induction participants with
  | nil => simpa [connectInTurn] using failure .noCandidate
  | cons p rest ih =>
    simp only [connectInTurn, Attempt.meets_bind, Attempt.meets_always]
    refine meets_cancelRequested lends fun set => ?_
    cases set with
    | true =>
      simp only [if_true, Attempt.meets_bind, Attempt.meets_always]
      exact meets_closeAll (failure _)
    | false =>
      simp only [Bool.false_eq_true, if_false, Attempt.meets_bind, Attempt.meets_always,
        Attempt.meets_run_iff, owned_cons, Multiset.cons_add]
      refine Socket.meets_connect p.socket ?_ fun cause => ledger_note ih
      refine ledger_note ?_
      rw [← Multiset.add_cons]
      exact meets_closeAll (success _ (ConnectionKind.ofFamily_ne_external _))

theorem meets_run {targets : List Alternate} {port : UInt16} {cancel : Option Cancellation}
    {ok : Connection → Multiset Descriptor → Prop}
    {err : ConnectError → Multiset Descriptor → Prop}
    (lends : ∀ token, cancel = some token → token.descriptor ∈ lent)
    (success : ∀ socket : Connection, socket.kind ≠ .external →
      ok socket (socket.descriptor ::ₘ held))
    (failure : ∀ e, err e held) :
    (run targets port cancel).Meets (ledger lent) held ok err := by
  simp only [run, Attempt.meets_bind, Attempt.meets_always]
  exact meets_line fun participants =>
    ledger_note (meets_connectInTurn lends success failure)

end Race

/-! ### Sequences -/

namespace Connector

variable {c : Connector} {ok : Connection → Connector → Multiset Descriptor → Prop}
  {err : ConnectError → Connector → Multiset Descriptor → Prop}

theorem meets_connectAddress {family : Family} {address : SocketAddress} {kind : ConnectionKind}
    {ok : Connection → Multiset Descriptor → Prop}
    {err : ConnectError → Multiset Descriptor → Prop}
    (success : ∀ d, ok ⟨d, family, kind⟩ (d ::ₘ held)) (failure : ∀ e, err e held) :
    (connectAddress family address kind).Meets (ledger lent) held ok err := by
  simp only [connectAddress, Attempt.meets_bind, Attempt.meets_mapError]
  refine Socket.meets_create (fun d => ?_) fun cause => failure _
  refine Program.meets_bind.mpr (Attempt.meets_run_iff.mpr ?_)
  refine Socket.meets_connect ⟨d, family⟩ ?_ fun cause => ?_
  · exact success d
  · refine Program.meets_bind.mpr (ledger_note ?_)
    exact failure _

theorem meets_socketFrom {r : Resolution} {policy : AddressPolicy}
    {ok : Socket × Fin r.candidates.length → Multiset Descriptor → Prop}
    {err : ConnectError → Multiset Descriptor → Prop}
    (success : ∀ (socket : Socket) (i : Fin r.candidates.length),
      ok (socket, i) (socket.descriptor ::ₘ held))
    (failure : ∀ e, err e held) (index : Fin r.candidates.length) :
    (socketFrom r policy index).Meets (ledger lent) held ok err := by
  generalize left : r.candidates.length - index.val = n
  induction n using Nat.strongRecOn generalizing index with
  | ind n ih =>
    rw [socketFrom]
    refine Program.meets_bind.mpr (Attempt.meets_run_iff.mpr ?_)
    refine Socket.meets_create (fun d => success _ _) fun cause => ?_
    refine Program.meets_bind.mpr (ledger_note ?_)
    split
    · exact failure _
    · rename_i next found
      have bounds := Resolution.select_lt found
      have shorter : r.candidates.length - next < n := by omega
      exact ih _ shorter ⟨next, bounds.2⟩ rfl

theorem meets_socketFor {host : String} {r : Resolution} {policy : AddressPolicy}
    {ok : Socket × Fin r.candidates.length → Multiset Descriptor → Prop}
    {err : ConnectError → Multiset Descriptor → Prop}
    (success : ∀ (socket : Socket) (i : Fin r.candidates.length),
      ok (socket, i) (socket.descriptor ::ₘ held))
    (failure : ∀ e, err e held) :
    (socketFor host r policy).Meets (ledger lent) held ok err := by
  unfold socketFor
  split
  · exact failure _
  · exact meets_socketFrom success failure _

theorem meets_connectResolved {host : String} {port : UInt16} {timeout : Option Duration}
    (lends : c.cancel.descriptor ∈ lent)
    (success : ∀ (socket : Connection) (c' : Connector), socket.kind ≠ .external →
      c'.cancel = c.cancel → ok socket c' (socket.descriptor ::ₘ held))
    (failure : ∀ e c', err e c' held) :
    (connectResolved host port timeout).Meets (ledger lent) held c ok err := by
  have resolves : (ledger lent).allowed held (.resolve host (some port)) :=
    ledger_allows (by simp [Call.names]) rfl
  rw [connectResolved, Step.meets_bind, Step.meets_always]
  refine ⟨resolves, fun (answer : Outcome Resolution) _ => ?_⟩
  change Step.Meets (ledger lent) held c _ ok err
  cases answer with
  | error cause =>
    simp only [Step.meets_bind, Step.meets_always, Step.meets_throw]
    exact ledger_note (failure _ _)
  | ok resolution =>
    simp only [Step.meets_bind, Step.meets_modify, Step.meets_get, Step.meets_ofAttempt,
      Step.meets_always, Attempt.meets_run_iff]
    refine meets_socketFor (fun socket index => ?_) fun e => failure _ _
    refine ledger_note (Socket.meets_connectWithin socket lends ?_ fun e => ?_)
    · exact success _ _ (ConnectionKind.ofFamily_ne_external _) rfl
    · exact ledger_note (failure _ _)

theorem meets_reachHost {host : String} {port : UInt16} {timeout : Option Duration}
    (lends : c.cancel.descriptor ∈ lent)
    (success : ∀ (socket : Connection) (c' : Connector), socket.kind ≠ .external →
      c'.cancel = c.cancel → ok socket c' (socket.descriptor ::ₘ held))
    (failure : ∀ e c', err e c' held) :
    (reachHost host port timeout).Meets (ledger lent) held c ok err := by
  have resolves : (ledger lent).allowed held (.resolve host none) :=
    ledger_allows (by simp [Call.names]) rfl
  simp only [reachHost, Step.meets_bind, Step.meets_get, Step.meets_always]
  refine meets_racesFor resolves (fun _ => rfl) fun races => ?_
  cases races with
  | false => exact meets_connectResolved lends success failure
  | true =>
    simp only [if_true, Step.meets_bind, Step.meets_always, Attempt.meets_run_iff]
    have lends' : ∀ token, some c.cancel = some token → token.descriptor ∈ lent := by
      rintro _ ⟨⟩
      exact lends
    refine Race.meets_run lends' (fun socket kind => success _ _ kind rfl) fun e => ?_
    split
    · contradiction
    · exact failure _ _
    · simp only [Step.meets_bind, Step.meets_always, Step.meets_modify]
      exact ledger_note (meets_connectResolved lends success failure)

/-- A target that hands nothing in is reached by a socket that was opened. -/
theorem meets_reach {target : Target} {timeout : Option Duration}
    (lends : c.cancel.descriptor ∈ lent) (own : ∀ d, target ≠ .external d)
    (success : ∀ (socket : Connection) (c' : Connector), socket.kind ≠ .external →
      c'.cancel = c.cancel → ok socket c' (socket.descriptor ::ₘ held))
    (failure : ∀ e c', err e c' held) :
    (reach timeout target).Meets (ledger lent) held c ok err := by
  cases target with
  | external d => exact absurd rfl (own d)
  | host name port => exact meets_reachHost lends success failure
  | unix address =>
    refine Step.meets_ofAttempt.mpr (meets_connectAddress (fun d => ?_) fun e => failure e c)
    exact success _ _ (by simp) rfl
  | vsock address =>
    refine Step.meets_ofAttempt.mpr (meets_connectAddress (fun d => ?_) fun e => failure e c)
    exact success _ _ (by simp) rfl

theorem ledger_localName {d : Descriptor} :
    (ledger lent).allowed (d ::ₘ held) (.localName d) :=
  ledger_allows (by simp [Call.names]) rfl

/-- Configuring keeps the socket or closes it. -/
theorem meets_configure {socket : Connection} (lends : c.cancel.descriptor ∈ lent)
    (kind : socket.kind ≠ .external)
    (success : ∀ c', ok socket c' (socket.descriptor ::ₘ held))
    (failure : ∀ e c', err e c' held) :
    (configure socket).Meets (ledger lent) (socket.descriptor ::ₘ held) c ok err := by
  refine meets_configure_of
    (R := fun c' held' => c'.cancel = c.cancel ∧ held' = socket.descriptor ::ₘ held) ?_ ?_ ?_
  · intro _
    refine meets_recordLocal ledger_localName ?_ ?_ ?_
    · exact fun _ => ledger_ignores (by simp)
    · exact fun answer ip _ => ⟨rfl, rfl⟩
    · intro answer cause _
      rw [if_pos kind]
      exact Descriptor.meets_close (failure _ _)
  · exact fun _ => ⟨rfl, rfl⟩
  · rintro c' _ ⟨same, rfl⟩
    rw [Attempt.meets_orElseClean]
    refine meets_configureOptions (ledger_tunes (by simp)) ?_ ?_
    · exact fun errno => Descriptor.meets_close (failure _ _)
    · refine Cancellation.ledger_isRequested (same ▸ lends) fun set => ?_
      cases set with
      | true => exact Descriptor.meets_close (failure _ _)
      | false => exact success c'

theorem meets_sequence {endpoint : String} {port : UInt32} {timeout : Option Duration}
    (lends : c.cancel.descriptor ∈ lent) (own : endpoint.toList.head? ≠ some '|')
    (success : ∀ (socket : Connection) c', ok socket c' (socket.descriptor ::ₘ held))
    (failure : ∀ e c', err e c' held) :
    (sequence endpoint port timeout).Meets (ledger lent) held c ok err := by
  unfold sequence
  split
  · exact failure _ _
  · rename_i target named
    have own : ∀ d, target ≠ .external d := by
      rintro d rfl
      exact own (Target.head_of_external named)
    rw [Step.meets_bind]
    refine meets_reach lends own (fun socket c' kind same => ?_) failure
    exact meets_configure (same ▸ lends) kind (success socket) failure

theorem meets_connect {endpoint : String} {port : UInt32} {timeout : Option Duration}
    {post : Except ConnectError Connection × Connector → Multiset Descriptor → Prop}
    (lends : c.cancel.descriptor ∈ lent) (own : endpoint.toList.head? ≠ some '|')
    (success : ∀ (socket : Connection) c', post (.ok socket, c') (socket.descriptor ::ₘ held))
    (failure : ∀ e c', post (.error e, c') held) :
    (c.connect endpoint port timeout).Meets (ledger lent) held post := by
  exact meets_connect_iff.mpr (meets_sequence lends own success fun e _ => failure e _)

end Connector

/-- A layer is made of a connected socket by opening a watch; where that fails the socket is
closed. -/
theorem Layer.meets_ofSocket (socket : Connection) {ok : Layer → Multiset Descriptor → Prop}
    {err : Failure → Multiset Descriptor → Prop}
    (success : ∀ d, ok ⟨⟨some socket.descriptor, some ⟨d, socket.descriptor⟩, socket.family,
      socket.kind⟩⟩ (d ::ₘ socket.descriptor ::ₘ held))
    (failure : ∀ cause, err cause held) :
    (Layer.ofSocket socket).Meets (ledger lent) (socket.descriptor ::ₘ held) ok err := by
  have mode := Descriptor.routine_setNonblocking (d := socket.descriptor) true
  rw [Layer.ofSocket, Attempt.meets_bind, RawStream.ofSocket, Attempt.meets_orElseClean]
  simp only [Attempt.meets_bind]
  refine mode.meets (ledger_ignores (by simp)) (fun _ => ?_) fun cause => ?_
  · refine Watch.meets_create (by simp) success fun cause => ?_
    exact Descriptor.meets_close (failure cause)
  · exact Descriptor.meets_close (failure cause)

theorem Connector.meets_openLayer {c : Connector} {endpoint : String} {port : UInt32}
    {timeout : Option Duration}
    {post : Except ConnectError Layer × Connector → Multiset Descriptor → Prop}
    (lends : c.cancel.descriptor ∈ lent) (own : endpoint.toList.head? ≠ some '|')
    (success : ∀ (socket : Connection) d c', post (.ok ⟨⟨some socket.descriptor,
      some ⟨d, socket.descriptor⟩, socket.family, socket.kind⟩⟩, c')
      (d ::ₘ socket.descriptor ::ₘ held))
    (failure : ∀ e c', post (.error e, c') held) :
    (c.openLayer endpoint port timeout).Meets (ledger lent) held post := by
  refine Program.meets_bind.mpr (meets_connect lends own (fun socket c' => ?_) fun e c' => ?_)
  · have keepAlive : (socket.descriptor.tryKeepAlive c'.settings.keepAlive
        c'.settings.ackTimeoutMs).Only (tunes socket.descriptor) :=
      Descriptor.tunes_tryKeepAlive _ _
    simp only [Program.meets_bind, Attempt.meets_run_iff]
    refine keepAlive.meets (ledger_tunes (by simp)) fun _ => ?_
    refine Layer.meets_ofSocket socket (fun d => success socket d c') fun cause => ?_
    refine Program.meets_bind.mpr (ledger_note ?_)
    exact failure _ _
  · exact failure e c'

end StreamTransport
