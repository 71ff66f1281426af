import StreamTransport.Proofs.Connect.Steps

/-!
# What a connect asks of the system

Which requests the parts of a connect make, and what they change of the
connector. A local address is asked for by configuring alone, and by taking
over a descriptor that was handed in.
-/

set_option autoImplicit false

namespace StreamTransport

/-- The requests that find addresses and make sockets for them, or give these up. -/
def prepares : Call → Prop
  | .resolve _ _ => True
  | .socket _ _ _ => True
  | .close _ => True
  | .note _ => True
  | _ => False

/-- The requests that make a layer of a socket, and leave notices. -/
def wraps : Call → Prop
  | .readMode _ => True
  | .writeMode _ _ => True
  | .watchCreate => True
  | .watchAdd _ _ _ => True
  | .getOption _ _ => True
  | .setOption _ _ _ => True
  | .close _ => True
  | .note _ => True
  | _ => False

/-- Any request but the one for a local address. -/
def nameless (request : Call) : Prop := ∀ d, request ≠ .localName d

theorem nameless_of_routine {ds : List Descriptor} {request : Call} (h : routine ds request) :
    nameless request := by
  rintro d rfl
  simp [routine, Call.isRoutine] at h

theorem connectless_of_routine {ds : List Descriptor} {request : Call} (h : routine ds request)
    (d : Descriptor) (raw : Bytes) : request ≠ .connect d raw := by
  rintro rfl
  simp [routine, Call.isRoutine] at h

theorem nameless_of_prepares {request : Call} (h : prepares request) : nameless request := by
  rintro d rfl
  exact h

theorem nameless_of_wraps {request : Call} (h : wraps request) : nameless request := by
  rintro d rfl
  exact h

theorem wraps_of_tunes {d : Descriptor} {request : Call} (h : tunes d request) :
    wraps request := by
  cases request <;> simp_all [tunes, wraps]

theorem prepares_note (notice : Notice) :
    Program.Only prepares (Journal.note notice : Program Unit) :=
  .perform trivial

theorem Socket.prepares_create (family : Family) (sockType protocol : Int) :
    (Socket.create family sockType protocol).Only prepares := by
  have creates : prepares (.socket family sockType protocol) := trivial
  exact (Attempt.Only.ofReply (.perform creates) _).bind fun _ => .pure _

namespace Race

theorem prepares_enter (target : Alternate) (port : UInt16) :
    (enter target port).Only prepares := by
  have resolves : prepares (.resolve target.host (some (target.port.getD port))) := trivial
  refine (Program.Only.perform resolves).bind fun (answer : Outcome Resolution) => ?_
  cases answer with
  | error cause => exact (prepares_note _).bind fun _ => .pure _
  | ok resolution =>
    dsimp only
    split
    · exact .pure _
    · refine (Socket.prepares_create _ _ _).run.bind fun created => ?_
      cases created with
      | error cause => exact (prepares_note _).bind fun _ => .pure _
      | ok socket => exact .pure _

theorem prepares_line (port : UInt16) (targets : List Alternate) :
    (line port targets).Only prepares := by
  induction targets with
  | nil => exact .pure _
  | cons target rest ih =>
    exact (prepares_enter target port).bind fun _ => ih.bind fun _ => .pure _

theorem prepares_closeAll (participants : List Participant) :
    (closeAll participants).Only prepares :=
  .forM fun _ _ => .perform trivial

end Race

namespace Connector

theorem prepares_racesFor (settings : Settings) (host : String) :
    (racesFor settings host).Only prepares :=
  meets_racesFor trivial (fun _ => rfl) fun _ => trivial

theorem prepares_socketFrom (r : Resolution) (policy : AddressPolicy)
    (index : Fin r.candidates.length) : (socketFrom r policy index).Only prepares := by
  generalize left : r.candidates.length - index.val = n
  induction n using Nat.strongRecOn generalizing index with
  | ind n ih =>
    rw [socketFrom]
    refine .of_run ((Socket.prepares_create _ _ _).run.bind fun created => ?_)
    cases created with
    | ok socket => exact .pure _
    | error cause =>
      refine (prepares_note _).bind fun _ => ?_
      split
      · exact .pure _
      · rename_i next found
        have bounds := Resolution.select_lt found
        have shorter : r.candidates.length - next < n := by omega
        exact (ih _ shorter ⟨next, bounds.2⟩ rfl).run

theorem prepares_socketFor (host : String) (r : Resolution) (policy : AddressPolicy) :
    (socketFor host r policy).Only prepares := by
  unfold socketFor
  split
  · exact .throw _
  · exact prepares_socketFrom _ _ _

end Connector

theorem Descriptor.wraps_close (d : Descriptor) : d.close.Only wraps := .perform trivial

theorem Descriptor.wraps_setNonblocking (d : Descriptor) (nonblocking : Bool) :
    (d.setNonblocking nonblocking).Only wraps := by
  have reads : wraps (.readMode d) := trivial
  have writes : wraps (.writeMode d nonblocking) := trivial
  refine (Attempt.Only.ofReply (.perform reads) _).bind fun current => ?_
  split
  · exact .pure _
  · exact .ofReply (.perform writes) _

theorem Watch.wraps_create (target : Descriptor) (interest : Interest) :
    (Watch.create target interest).Only wraps := by
  have creates : wraps .watchCreate := trivial
  have adds : ∀ d, wraps (.watchAdd d target interest) := fun _ => trivial
  refine (Attempt.Only.ofReply (.perform creates) _).bind fun d => ?_
  have added := Attempt.Only.ofReply (.perform (adds d)) controlFailure
  exact (added.orElseClean d.wraps_close).bind fun _ => .pure _

theorem Layer.wraps_ofSocket (socket : Connection) : (Layer.ofSocket socket).Only wraps := by
  have mode := socket.descriptor.wraps_setNonblocking true
  have watches := Watch.wraps_create socket.descriptor
  refine (Attempt.Only.orElseClean ?_ socket.descriptor.wraps_close).bind fun _ => .pure _
  exact mode.bind fun _ => (watches _).bind fun _ => .pure _

/-- A layer is opened by a connect and, where it succeeds, by requests that wrap its socket. -/
theorem Connector.meets_openLayer_of_connect {σ : Type} {K : Contract σ} {s : σ} {c : Connector}
    {endpoint : String} {port : UInt32} {timeout : Option Duration}
    {post : Except ConnectError Layer × Connector → σ → Prop}
    (connects : (c.connect endpoint port timeout).Meets K s fun outcome s =>
      (∀ e, outcome.1 = .error e → post (.error e, outcome.2) s) ∧
      ∀ socket, outcome.1 = .ok socket → K.Ignores wraps s ∧ ∀ outcome', post outcome' s) :
    (c.openLayer endpoint port timeout).Meets K s post := by
  refine Program.meets_bind.mpr (connects.mono ?_)
  rintro ⟨e | socket, c'⟩ s ⟨failed, connected⟩
  · exact failed e rfl
  · obtain ⟨ignores, done⟩ := connected socket rfl
    have keepAlive := (Descriptor.tunes_tryKeepAlive (d := socket.descriptor)
      c'.settings.keepAlive c'.settings.ackTimeoutMs).mono fun _ => wraps_of_tunes
    have note : ∀ notice, Program.Only wraps (Journal.note notice) := fun _ => .perform trivial
    simp only [Program.meets_bind, Attempt.meets_run_iff]
    refine keepAlive.meets ignores fun _ => ?_
    refine (Layer.wraps_ofSocket socket).meets ignores (fun _ => done _) fun cause => ?_
    refine Program.meets_bind.mpr ((note _).meets ignores fun _ => ?_)
    exact done _

/-! ### Requests of a blocking connect and of configuring -/

section

variable {P : Call → Prop}

namespace Socket

theorem only_request (socket : Socket) {address : SocketAddress}
    (connects : ∀ raw, address.encode? = some raw → P (.connect socket.descriptor raw)) :
    (socket.request address).Only P := by
  unfold request
  split
  · exact .throw _
  · rename_i raw encodes
    exact .always (.perform (connects raw encodes))

theorem only_connect (socket : Socket) {address : SocketAddress} {kind : ConnectionKind}
    (connects : ∀ raw, address.encode? = some raw → P (.connect socket.descriptor raw))
    (closes : P (.close socket.descriptor)) : (socket.connect address kind).Only P := by
  refine .orElseClean ((socket.only_request connects).bind fun answer => ?_) (.perform closes)
  cases answer with
  | ok _ => exact .pure _
  | error errno => exact .throw _

end Socket

theorem Race.only_connectInTurn (cancel : Option Cancellation) {participants : List Participant}
    (prepared : ∀ request, prepares request → P request)
    (routine' : ∀ ds request, routine ds request → P request)
    (connects : ∀ p ∈ participants, ∀ d raw, p.candidate.address.encode? = some raw →
      P (.connect d raw)) : (connectInTurn cancel participants).Only P := by
  have closes : ∀ rest, (closeAll rest).Only P := fun rest => (prepares_closeAll rest).mono prepared
  have notes := fun notice => (prepares_note notice).mono prepared
  have looks : (cancelRequested cancel).Only P := by
    cases cancel with
    | none => exact .pure _
    | some token => exact token.routine_isRequested.mono (routine' _)
  induction participants with
  | nil => exact .throw _
  | cons p rest ih =>
    obtain ⟨first, others⟩ := List.forall_mem_cons.mp connects
    have connect : (p.socket.connect p.candidate.address
        (.ofFamily p.candidate.address.family)).Only P :=
      p.socket.only_connect (first p.socket.descriptor) (prepared _ trivial)
    refine (Attempt.Only.always looks).bind fun set => ?_
    split
    · exact (Attempt.Only.always (closes _)).bind fun _ => trivial
    · refine (Attempt.Only.always connect.run).bind fun connected => ?_
      cases connected with
      | ok socket =>
        exact (Attempt.Only.always (notes _)).bind fun _ =>
          (Attempt.Only.always (closes _)).bind fun _ => .pure _
      | error cause => exact (Attempt.Only.always (notes _)).bind fun _ => ih others

namespace Connector

theorem only_connectAddress {family : Family} {address : SocketAddress} {kind : ConnectionKind}
    (prepared : ∀ request, prepares request → P request)
    (connects : ∀ d raw, address.encode? = some raw → P (.connect d raw)) :
    (connectAddress family address kind).Only P := by
  have creates := (Socket.prepares_create family streamType 0).mono prepared
  have notes := fun notice => (prepares_note notice).mono prepared
  refine (creates.mapError _).bind fun socket => .of_run ?_
  have connect : (socket.connect address kind).Only P :=
    socket.only_connect (connects socket.descriptor) (prepared (.close socket.descriptor) trivial)
  refine connect.run.bind fun connected => ?_
  cases connected with
  | ok _ => exact .pure _
  | error cause => exact (notes _).bind fun _ => .pure _

/-- Configuring looks at the socket and tunes it, asks for its name or closes it. It leaves the
recorded error alone. -/
theorem configure_only (socket : Connection) (c : Connector)
    (routine' : ∀ ds request, routine ds request → P request) (names : ∀ d, P (.localName d))
    (closes : ∀ d, P (.close d)) :
    (configure socket).Meets (only P) () c (fun _ c' _ => c'.lastError = c.lastError)
      fun _ c' _ => c'.lastError = c.lastError := by
  have close : socket.descriptor.close.Only P := .perform (closes _)
  refine meets_configure_of (R := fun c' _ => c'.lastError = c.lastError) ?_ (fun _ => rfl) ?_
  · intro _
    refine meets_recordLocal (names _) ?_ (fun _ _ _ => rfl) fun _ _ _ => ?_
    · exact fun _ => only_ignores (routine' [])
    · split
      · exact Program.Meets.mono close fun _ _ _ => rfl
      · rfl
  · intro c' _ same
    have options : (c'.configureOptions socket).Only P := by
      refine meets_configureOptions ?_ (fun _ => trivial) ?_
      · exact only_ignores fun _ h => routine' _ _ (routine_of_tunes h)
      · have looks := c'.cancel.routine_isRequested.mono (routine' _)
        refine Program.Meets.mono looks fun set _ _ => ?_
        cases set <;> trivial
    have cleaned : ((c'.configureOptions socket).orElseClean socket.descriptor.close).Only P :=
      options.orElseClean close
    exact cleaned.meets (only_ignores fun _ h => h) (fun _ => same) fun _ => same

variable {c : Connector} {endpoint : String} {port : UInt32} {timeout : Option Duration}

/-- A connect asks for what reaching its target asks for, and for what configuring does. -/
theorem connect_only
    (reaches : ∀ target, Target.ofEndpoint endpoint port = .ok target →
      (reach timeout target).Meets (only P) () c (fun _ _ _ => True) fun _ _ _ => True)
    (routine' : ∀ ds request, routine ds request → P request) (names : ∀ d, P (.localName d))
    (closes : ∀ d, P (.close d)) : (c.connect endpoint port timeout).Only P := by
  have sequence' : (sequence endpoint port timeout).Meets (only P) () c (fun _ _ _ => True)
      fun _ _ _ => True := by
    unfold sequence
    split
    · trivial
    · rename_i target named
      rw [Step.meets_bind]
      refine (reaches target named).mono (fun socket c' _ _ => ?_) fun _ _ _ h => h
      have configured := configure_only socket c' routine' names closes
      exact configured.mono (fun _ _ _ _ => trivial) fun _ _ _ _ => trivial
  exact meets_connect_iff.mpr sequence'

theorem openLayer_only (connects : (c.connect endpoint port timeout).Only P)
    (wraps' : ∀ request, wraps request → P request) :
    (c.openLayer endpoint port timeout).Only P := by
  refine meets_openLayer_of_connect (Program.Meets.mono connects fun outcome _ _ => ⟨?_, ?_⟩)
  · exact fun _ _ => trivial
  · exact fun socket _ => ⟨only_ignores wraps', fun _ => trivial⟩

end Connector

end

/-! ### Requests that ask for no local address -/

theorem nameless_note (notice : Notice) :
    Program.Only nameless (Journal.note notice : Program Unit) :=
  (prepares_note notice).mono fun _ => nameless_of_prepares

theorem Descriptor.nameless_close (d : Descriptor) : d.close.Only nameless :=
  d.wraps_close.mono fun _ => nameless_of_wraps

namespace Socket

theorem nameless_request (socket : Socket) (address : SocketAddress) :
    (socket.request address).Only nameless :=
  socket.only_request (by simp [nameless])

theorem nameless_startConnect (socket : Socket) (address : SocketAddress) :
    (socket.startConnect address).Only nameless := by
  have mode := Descriptor.routine_setNonblocking (d := socket.descriptor) true
  refine .orElseClean ?_ socket.descriptor.nameless_close
  refine (mode.mono fun _ => nameless_of_routine).bind fun _ => ?_
  refine (nameless_request socket address).bind fun answer => ?_
  cases answer with
  | ok _ => exact .pure _
  | error errno =>
    dsimp only
    split
    · exact .pure _
    · exact .throw _

theorem nameless_connectWithin (socket : Socket) (address : SocketAddress)
    (timeout : Option Duration) (cancel : Cancellation) :
    (socket.connectWithin address timeout cancel).Only nameless := by
  have looks := cancel.routine_isRequested.mono fun _ => nameless_of_routine
  have mode := fun d : Descriptor => (d.wraps_setNonblocking false).mono fun _ =>
    nameless_of_wraps
  have watches := fun target interest => (Watch.wraps_create target interest).mono fun _ =>
    nameless_of_wraps
  have confirms : ∀ (started : StartedConnect) watch timeout,
      (started.confirm watch address timeout cancel).Only nameless := by
    intro started watch timeout
    have confirm : (started.confirm watch address timeout cancel).Only
        (routine [started.descriptor, watch.descriptor, watch.target, cancel.descriptor]) :=
      started.routine_confirm (by simp) (by simp) (by simp) (by simp) address timeout
    exact confirm.mono fun _ => nameless_of_routine
  refine (Attempt.Only.always looks).bind fun set => ?_
  split
  · exact (Attempt.Only.always (Descriptor.nameless_close _)).bind fun _ => trivial
  · refine ((nameless_startConnect socket address).mapError _).bind fun started => ?_
    refine .orElseClean ?_ (Descriptor.nameless_close _)
    refine ((watches _ _).mapError _).bind fun watch => ?_
    refine ((confirms started watch _).orElseClean (Descriptor.nameless_close _)).bind fun _ => ?_
    refine (Attempt.Only.always (Descriptor.nameless_close _)).bind fun _ => ?_
    exact ((mode _).mapError _).bind fun _ => .pure _

end Socket

namespace Race

theorem nameless_connectInTurn (cancel : Option Cancellation) (participants : List Participant) :
    (connectInTurn cancel participants).Only nameless :=
  only_connectInTurn cancel (fun _ => nameless_of_prepares) (fun _ _ => nameless_of_routine)
    (by simp [nameless])

theorem nameless_run (targets : List Alternate) (port : UInt16) (cancel : Option Cancellation) :
    (run targets port cancel).Only nameless := by
  have lines := (prepares_line port targets).mono fun _ => nameless_of_prepares
  refine (Attempt.Only.always lines).bind fun participants => ?_
  exact (Attempt.Only.always (nameless_note _)).bind fun _ => nameless_connectInTurn _ _

end Race

namespace Connector

theorem nameless_connectAddress (family : Family) (address : SocketAddress)
    (kind : ConnectionKind) : (connectAddress family address kind).Only nameless :=
  only_connectAddress (fun _ => nameless_of_prepares) (by simp [nameless])

/-- The same but for the error code. -/
structure Alike (c c' : Connector) : Prop where
  settings : c'.settings = c.settings
  cancel : c'.cancel = c.cancel
  clientAddress : c'.clientAddress = c.clientAddress

theorem Alike.refl (c : Connector) : Alike c c := ⟨rfl, rfl, rfl⟩

theorem Alike.trans {c c' c'' : Connector} (h : Alike c c') (h' : Alike c' c'') : Alike c c'' :=
  ⟨h'.settings.trans h.settings, h'.cancel.trans h.cancel, h'.clientAddress.trans h.clientAddress⟩

/-- A step that makes such requests and changes no more of the connector than the error code. -/
def Step.Only {α : Type} (P : Call → Prop) (p : Step α) : Prop :=
  ∀ c, p.Meets (only P) () c (fun _ c' _ => Alike c c') fun _ c' _ => Alike c c'

namespace Step.Only

variable {α β : Type} {P : Call → Prop}

theorem pure (a : α) : Only P (Pure.pure a : Step α) := fun c => Alike.refl c

theorem throw (e : ConnectError) : Only P (MonadExcept.throw e : Step α) := fun c => Alike.refl c

theorem bind {p : Step α} {f : α → Step β} (h : Only P p) (h' : ∀ a, Only P (f a)) :
    Only P (p >>= f) := by
  intro c
  refine meets_bind.mpr ((h c).mono (fun a c' _ alike => ?_) fun _ _ _ alike => alike)
  exact (h' a c').mono (fun _ _ _ alike' => alike.trans alike') fun _ _ _ alike' =>
    alike.trans alike'

theorem ofAttempt {p : Attempt ConnectError α} (h : p.Only P) : Only P (ofAttempt p) :=
  fun c => meets_ofAttempt.mpr (Attempt.Meets.mono h (fun _ _ _ => .refl c) fun _ _ _ => .refl c)

theorem always {p : Program α} (h : p.Only P) : Only P (always p) :=
  fun c => meets_always.mpr (Program.Meets.mono h fun _ _ _ => .refl c)

theorem changes {f : Connector → Connector} (h : ∀ c, Alike c (f c)) :
    Only P (modify f : Step PUnit) := fun c => h c

theorem get_bind {f : Connector → Step β} (h : ∀ c, Only P (f c)) :
    Only P (MonadState.get >>= f : Step β) :=
  fun c => meets_bind.mpr (h c c)

section

variable {σ : Type} {K : Contract σ} {s : σ} {p : Step α}

theorem alike (h : Only P p) (allowed : ∀ s request, P request → K.allowed s request)
    (c : Connector) :
    p.Meets K s c (fun _ c' _ => Alike c c') fun _ c' _ => Alike c c' := by
  have outcomes : Program.Meets (StreamTransport.only P) () (p.run.run c) fun outcome _ =>
      Alike c outcome.2 := meets_run_iff.mpr (h c)
  exact meets_run_iff.mp (Program.meets_of_only outcomes allowed)

end

end Step.Only

theorem nameless_connectResolved (host : String) (port : UInt16) (timeout : Option Duration) :
    Step.Only nameless (connectResolved host port timeout) := by
  have notes := fun notice => Step.Only.always (nameless_note notice)
  have resolves : Program.Only nameless (Program.perform (.resolve host (some port))) :=
    .perform (by simp [nameless])
  have forgets : Step.Only nameless (modify forget) := .changes fun _ => ⟨rfl, rfl, rfl⟩
  refine (Step.Only.always resolves).bind fun (answer : Outcome Resolution) => ?_
  cases answer with
  | error cause => exact (notes _).bind fun _ => .throw _
  | ok resolution =>
    refine forgets.bind fun _ => .get_bind fun c => ?_
    have sockets := (prepares_socketFor host resolution c.settings.addressPolicy).mono fun _ =>
      nameless_of_prepares
    refine (Step.Only.ofAttempt sockets).bind fun found => (notes _).bind fun _ => ?_
    have connects := found.1.nameless_connectWithin resolution.candidates[found.2].address timeout
      c.cancel
    refine (Step.Only.always connects.run).bind fun connected => ?_
    cases connected with
    | ok _ => exact .pure _
    | error e => exact (notes _).bind fun _ => .throw _

theorem nameless_reachHost (host : String) (port : UInt16) (timeout : Option Duration) :
    Step.Only nameless (reachHost host port timeout) := by
  have resolved := nameless_connectResolved host port timeout
  refine .get_bind fun c => ?_
  have asks := (prepares_racesFor c.settings host).mono fun _ => nameless_of_prepares
  refine (Step.Only.always asks).bind fun races => ?_
  split
  · have raced := Race.nameless_run c.settings.targets port (some c.cancel)
    refine (Step.Only.always raced.run).bind fun outcome => ?_
    split
    · exact .pure _
    · exact (Step.Only.throw _).bind fun _ => resolved
    · refine (Step.Only.always (nameless_note _)).bind fun _ => ?_
      have records : Step.Only nameless (modify (·.record .connectCancelled)) :=
        .changes fun _ => ⟨rfl, rfl, rfl⟩
      exact records.bind fun _ => resolved
  · exact resolved

/-- A target that hands nothing in is reached without asking for a local address. -/
theorem nameless_reach {target : Target} (own : ∀ d, target ≠ .external d)
    (timeout : Option Duration) : Step.Only nameless (reach timeout target) := by
  cases target with
  | external d => exact absurd rfl (own d)
  | host name port => exact nameless_reachHost name port timeout
  | unix address => exact .ofAttempt (nameless_connectAddress _ _ _)
  | vsock address => exact .ofAttempt (nameless_connectAddress _ _ _)

end Connector
end StreamTransport
