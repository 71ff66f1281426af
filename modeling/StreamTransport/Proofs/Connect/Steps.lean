import StreamTransport.Connect.Connector
import StreamTransport.Proofs.System.Routine

/-!
# Contracts of connect sequences

A step of a sequence runs on a connector and leaves one behind, whether it
succeeds or fails.
-/

set_option autoImplicit false

namespace StreamTransport

namespace Connector.Step

variable {σ α β : Type}

/-- A step ends as `ok` says if it succeeds, and as `err` says if it fails. -/
def Meets (K : Contract σ) (s : σ) (c : Connector) (p : Step α)
    (ok : α → Connector → σ → Prop) (err : ConnectError → Connector → σ → Prop) : Prop :=
  Program.Meets K s (p.run.run c) fun outcome s =>
    match outcome.1 with
    | .ok a => ok a outcome.2 s
    | .error e => err e outcome.2 s

variable {K : Contract σ} {s : σ} {c : Connector} {p : Step α}
  {ok : α → Connector → σ → Prop} {err : ConnectError → Connector → σ → Prop}

theorem Meets.mono {ok' : α → Connector → σ → Prop} {err' : ConnectError → Connector → σ → Prop}
    (h : p.Meets K s c ok err) (success : ∀ a c s, ok a c s → ok' a c s)
    (failure : ∀ e c s, err e c s → err' e c s) : p.Meets K s c ok' err' := by
  refine Program.Meets.mono h fun outcome s => ?_
  rcases outcome with ⟨_ | _, c⟩
  · exact failure _ c s
  · exact success _ c s

theorem meets_run_iff {post : Except ConnectError α × Connector → σ → Prop} :
    Program.Meets K s (p.run.run c) post ↔
      p.Meets K s c (fun a c => post (.ok a, c)) fun e c => post (.error e, c) := by
  refine Program.meets_congr fun outcome s => ?_
  rcases outcome with ⟨_ | _, c⟩
  · rfl
  · rfl

@[simp] theorem meets_pure {a : α} : (pure a : Step α).Meets K s c ok err ↔ ok a c s := Iff.rfl

@[simp] theorem meets_throw {e : ConnectError} :
    (throw e : Step α).Meets K s c ok err ↔ err e c s := Iff.rfl

@[simp] theorem meets_bind {f : α → Step β} {ok : β → Connector → σ → Prop} :
    (p >>= f).Meets K s c ok err ↔ p.Meets K s c (fun a c s => (f a).Meets K s c ok err) err := by
  change Program.Meets K s
    (p.run.run c >>= fun outcome => (ExceptT.bindCont f outcome.1).run outcome.2) _ ↔ _
  rw [Program.meets_bind]
  refine Program.meets_congr fun outcome s => ?_
  rcases outcome with ⟨_ | _, c⟩
  · rfl
  · rfl

@[simp] theorem meets_get {ok : Connector → Connector → σ → Prop} :
    (get : Step Connector).Meets K s c ok err ↔ ok c c s := Iff.rfl

@[simp] theorem meets_modify {f : Connector → Connector} {ok : PUnit → Connector → σ → Prop} :
    (modify f : Step PUnit).Meets K s c ok err ↔ ok ⟨⟩ (f c) s := Iff.rfl

@[simp] theorem meets_ofAttempt {p : Attempt ConnectError α} :
    (ofAttempt p).Meets K s c ok err ↔ p.Meets K s (fun a => ok a c) fun e => err e c := by
  change Program.Meets K s (p.run >>= fun result => pure (result, c)) _ ↔ _
  rw [Program.meets_bind, Attempt.meets_run_iff]
  rfl

@[simp] theorem meets_always {p : Program α} :
    (always p).Meets K s c ok err ↔ p.Meets K s fun a => ok a c := by
  change Program.Meets K s
    ((p >>= fun a => pure (a, c)) >>= fun r => pure (Except.ok r.1, r.2)) _ ↔ _
  simp only [Program.meets_bind, Program.meets_pure]

theorem run_bind (p : Step α) (f : α → Step β) (c : Connector) :
    (p >>= f).run.run c = p.run.run c >>= fun outcome =>
      match outcome.1 with
      | .ok a => (f a).run.run outcome.2
      | .error e => pure (.error e, outcome.2) := by
  change p.run.run c >>= (fun outcome => (ExceptT.bindCont f outcome.1).run outcome.2) = _
  refine bind_congr fun outcome => ?_
  rcases outcome with ⟨_ | _, c⟩
  · rfl
  · rfl

theorem run_always (p : Program α) (c : Connector) :
    (always p).run.run c = (fun a => (.ok a, c)) <$> p := by
  change (p >>= fun a => pure (a, c)) >>= (fun r => pure (Except.ok r.1, r.2)) = _
  simp only [bind_assoc, pure_bind, map_eq_pure_bind]

theorem run_ofAttempt (p : Attempt ConnectError α) (c : Connector) :
    (ofAttempt p).run.run c = (fun result => (result, c)) <$> p.run :=
  (map_eq_pure_bind _ _).symm

theorem run_always_bind (p : Program α) (f : α → Step β) (c : Connector) :
    (always p >>= f).run.run c = p >>= fun a => (f a).run.run c := by
  rw [run_bind, run_always, map_eq_pure_bind]
  simp only [bind_assoc, pure_bind]

open Program

variable {first rest : List Event} {c' : Connector}

theorem runs_bind {f : α → Step β} {a : α} {r : Except ConnectError β × Connector}
    (h : Runs (p.run.run c) first (.ok a, c')) (h' : Runs ((f a).run.run c') rest r) :
    Runs ((p >>= f).run.run c) (first ++ rest) r :=
  h.bind h'

theorem runs_ofAttempt {p : Attempt ConnectError α} {r : Except ConnectError α}
    (h : Runs p.run first r) : Runs ((ofAttempt p).run.run c) first (r, c) :=
  h.map rfl

theorem runs_always {p : Program α} {a : α} (h : Runs p first a) :
    Runs ((always p).run.run c) first (.ok a, c) :=
  (h.map (b := (a, c)) rfl).map rfl

theorem runs_modify {f : Connector → Connector} {k : PUnit → Step α}
    {r : Except ConnectError α × Connector} (h : Runs ((k ⟨⟩).run.run (f c)) first r) :
    Runs ((modify f >>= k).run.run c) first r :=
  h

theorem runs_get {k : Connector → Step α} {r : Except ConnectError α × Connector}
    (h : Runs ((k c).run.run c) first r) : Runs ((get >>= k).run.run c) first r :=
  h

end Connector.Step

section

variable {ds : List Descriptor}

theorem StartedConnect.routine_pendingError {started : StartedConnect}
    (mine : started.descriptor ∈ ds) : started.pendingError.Only (routine ds) := by
  have reads : routine ds (.getOption started.descriptor .pendingError) :=
    ⟨rfl, List.cons_subset.mpr ⟨mine, List.nil_subset _⟩⟩
  exact (Attempt.Only.ofReply (.perform reads) _).bind fun _ => .pure _

theorem StartedConnect.routine_checkReset {started : StartedConnect}
    (mine : started.descriptor ∈ ds) : started.checkReset.Only (routine ds) := by
  have peeks : routine ds (.peek started.descriptor) :=
    ⟨rfl, List.cons_subset.mpr ⟨mine, List.nil_subset _⟩⟩
  refine .of_run ((Program.Only.perform peeks).bind fun (answer : Reply Unit) => ?_)
  cases answer with
  | ok _ => exact .pure _
  | error _ => exact .pure _

theorem Watch.routine_stop {watch : Watch} (mine : watch.descriptor ∈ ds)
    (target : watch.target ∈ ds) : watch.stop.Only (routine ds) := by
  have removes : routine ds (.watchRemove watch.descriptor watch.target) :=
    ⟨rfl, List.cons_subset.mpr ⟨mine, List.cons_subset.mpr ⟨target, List.nil_subset _⟩⟩⟩
  exact .ofReply (.perform removes) _

/-- A connect that was started is confirmed by routine requests. -/
theorem StartedConnect.routine_confirm {started : StartedConnect} {watch : Watch}
    {cancel : Cancellation} (mine : started.descriptor ∈ ds) (watches : watch.descriptor ∈ ds)
    (target : watch.target ∈ ds) (token : cancel.descriptor ∈ ds) (address : SocketAddress)
    (timeout : Option Duration) :
    (started.confirm watch address timeout cancel).Only (routine ds) := by
  have waits : [cancel.descriptor, watch.descriptor] ⊆ ds :=
    List.cons_subset.mpr ⟨token, List.cons_subset.mpr ⟨watches, List.nil_subset _⟩⟩
  have decided := ((routine_checkReset mine).mapError (ConnectError.connect address.text)).bind
    fun _ => (Watch.routine_stop watches target).mapError ConnectError.socket
  refine ((Wait.routine_any waits timeout).mapError _).bind fun found => ?_
  rcases found with _ | _ | _
  · exact .throw _
  · exact (Attempt.Only.always (.note _)).bind fun _ => .throw _
  · refine ((routine_pendingError mine).mapError _).bind fun cause => ?_
    cases cause with
    | none => exact decided
    | some cause => exact (Attempt.Only.throw _).bind fun _ => decided

end

namespace Connector

variable {σ : Type} {K : Contract σ} {s : σ}

/-- To decide on a race no more than a resolver is asked. -/
theorem meets_racesFor {settings : Settings} {host : String} {post : Bool → σ → Prop}
    (allowed : K.allowed s (.resolve host none))
    (same : ∀ answer, K.next s ⟨.resolve host none, answer⟩ = s) (h : ∀ races, post races s) :
    (racesFor settings host).Meets K s post := by
  have resolvable : (isResolvable host).Meets K s fun _ s' => s' = s := by
    refine Program.meets_bind.mpr ⟨allowed, fun (answer : Outcome Resolution) _ => ?_⟩
    cases answer with
    | ok _ => exact same _
    | error _ => exact same _
  unfold racesFor
  split
  · exact h false
  · split
    · exact h true
    · refine Program.meets_bind.mpr (resolvable.mono ?_)
      rintro found _ rfl
      exact h _

/-- The internet address that a name request answered with, if it answered with one. -/
def ipOf : Reply KernelAddress → Option IpText
  | .ok raw => (SocketAddress.decode? raw).bind SocketAddress.ipText?
  | .error _ => none

/-- The address that a name request answered with, if it is one of a supported family. -/
def addressOf? : Reply KernelAddress → Option SocketAddress
  | .ok raw => SocketAddress.decode? raw
  | .error _ => none

theorem ipOf_eq_bind (answer : Reply KernelAddress) :
    ipOf answer = (addressOf? answer).bind SocketAddress.ipText? := by
  cases answer <;> rfl

/-- Of the supported families only VSOCK has no internet form. -/
theorem ipOf_eq_none_iff {answer : Reply KernelAddress} {address : SocketAddress}
    (named : addressOf? answer = some address) : ipOf answer = none ↔ address.family = .vsock := by
  rw [ipOf_eq_bind, named, Option.bind_some]
  cases address <;> simp [SocketAddress.ipText?, SocketAddress.family]

theorem meets_localAddress {d : Descriptor} {ok : SocketAddress → σ → Prop}
    {err : Failure → σ → Prop} (allowed : K.allowed s (.localName d))
    (named : ∀ answer address, addressOf? answer = some address →
      ok address (K.next s ⟨.localName d, answer⟩))
    (unnamed : ∀ answer cause, addressOf? answer = none →
      err cause (K.next s ⟨.localName d, answer⟩)) :
    d.localAddress.Meets K s ok err := by
  rw [Descriptor.localAddress, Attempt.meets_bind]
  refine Attempt.meets_ofReply.mpr ⟨allowed, fun answer _ => ?_⟩
  cases answer with
  | error errno => exact unnamed _ _ rfl
  | ok raw =>
    change Attempt.Ends ok err (addressOfName raw) _
    cases h : SocketAddress.decode? raw with
    | none =>
      rw [addressOfName, h]
      exact unnamed (.ok raw) _ h
    | some address =>
      rw [addressOfName, h]
      exact named (.ok raw) address h

theorem meets_localText {socket : Connection} {ok : IpText → σ → Prop} {err : Failure → σ → Prop}
    (allowed : K.allowed s (.localName socket.descriptor))
    (named : ∀ answer ip, ipOf answer = some ip →
      ok ip (K.next s ⟨.localName socket.descriptor, answer⟩))
    (unnamed : ∀ answer cause, ipOf answer = none →
      err cause (K.next s ⟨.localName socket.descriptor, answer⟩)) :
    (localText socket).Meets K s ok err := by
  rw [localText, Attempt.meets_bind]
  refine meets_localAddress allowed (fun answer address here => ?_) fun answer cause nowhere => ?_
  · cases ip : address.ipText? with
    | none => exact unnamed answer _ (by simp [ipOf_eq_bind, here, ip])
    | some ip' => exact named answer ip' (by simp [ipOf_eq_bind, here, ip])
  · exact unnamed answer cause (by simp [ipOf_eq_bind, nowhere])

theorem meets_recordLocal {c : Connector} {socket : Connection} {ok : Unit → Connector → σ → Prop}
    {err : ConnectError → Connector → σ → Prop}
    (allowed : K.allowed s (.localName socket.descriptor))
    (steady : ∀ answer, K.Ignores (routine []) (K.next s ⟨.localName socket.descriptor, answer⟩))
    (named : ∀ answer ip, ipOf answer = some ip →
      ok () { c with clientAddress := some ip } (K.next s ⟨.localName socket.descriptor, answer⟩))
    (unnamed : ∀ answer cause, ipOf answer = none →
      (if socket.kind ≠ .external then socket.descriptor.close else pure ()).Meets K
        (K.next s ⟨.localName socket.descriptor, answer⟩) fun _ => err (.configure cause) c) :
    (recordLocal socket).Meets K s c ok err := by
  rw [recordLocal, Step.meets_bind, Step.meets_always, Attempt.meets_run_iff]
  refine meets_localText allowed named fun answer cause h => ?_
  simp only [Step.meets_bind, Step.meets_always]
  refine (Program.Only.note _).meets (steady answer) fun _ => ?_
  have closed := unnamed answer cause h
  by_cases kind : socket.kind ≠ .external
  · rw [if_pos kind] at closed ⊢
    rw [Step.meets_bind, Step.meets_always]
    exact closed
  · rw [if_neg kind] at closed ⊢
    exact closed

/-- Configuring fails where the receive buffer cannot be raised and where the last look finds the
token set. Whatever else happens there has no effect. -/
theorem meets_configureOptions {c : Connector} {socket : Connection} {ok : Unit → σ → Prop}
    {err : ConnectError → σ → Prop}
    (ignores : K.Ignores (tunes socket.descriptor) s)
    (unraised : ∀ errno,
      err (.configure (.socket (.setOption errno SocketOption.receiveBuffer.name))) s)
    (lastLook : c.cancel.isRequested.Meets K s fun set s =>
      if set then err .cancelled s else ok () s) :
    (c.configureOptions socket).Meets K s ok err := by
  have note : ∀ notice, Program.Only (tunes socket.descriptor) (Journal.note notice) :=
    fun _ => .perform trivial
  have look : c.cancel.isRequested.Meets K s fun set s =>
      (if set then throw .cancelled else pure () : Attempt ConnectError Unit).Meets K s ok err := by
    refine lastLook.mono fun set s h => ?_
    cases set with
    | true => exact h
    | false => exact h
  cases tcp : socket.kind.hasTcpOptions with
  | false =>
    simp only [configureOptions, tcp, Bool.false_eq_true, if_false, Attempt.meets_bind,
      Attempt.meets_always, Attempt.meets_run_iff, Attempt.meets_throw]
    refine Descriptor.meets_raiseReceiveBuffer ignores look (fun errno => ?_) _
    exact (note _).meets ignores fun _ => unraised errno
  | true =>
    simp only [configureOptions, tcp, if_true, Attempt.meets_bind, Attempt.meets_always,
      Attempt.meets_run_iff, Attempt.meets_throw]
    refine (Descriptor.tunes_tryOption _ _ _).meets ignores fun _ => ?_
    refine Descriptor.meets_raiseReceiveBuffer ignores ?_ (fun errno => ?_) _
    · exact (Descriptor.tunes_tryKeepAlive _ _).meets ignores fun _ => look
    · exact (note _).meets ignores fun _ => unraised errno

/-- Configuring first records the local address, but of a VSOCK socket, and closes the socket where
the options fail. -/
theorem meets_configure_of {c : Connector} {socket : Connection}
    {ok : Connection → Connector → σ → Prop} {err : ConnectError → Connector → σ → Prop}
    {R : Connector → σ → Prop}
    (recorded : socket.family ≠ .vsock → (recordLocal socket).Meets K s c (fun _ => R) err)
    (unrecorded : socket.family = .vsock → R c s)
    (options : ∀ c' s', R c' s' →
      ((c'.configureOptions socket).orElseClean socket.descriptor.close).Meets K s'
        (fun _ => ok socket c') fun e => err e c') :
    (configure socket).Meets K s c ok err := by
  unfold configure
  split
  · rename_i family
    simp only [Step.meets_bind, Step.meets_get, Step.meets_ofAttempt, Step.meets_pure]
    exact (recorded family).mono (fun _ => options) fun _ _ _ h => h
  · rename_i family
    simp only [Step.meets_bind, Step.meets_get, Step.meets_ofAttempt, Step.meets_pure]
    exact options c s (unrecorded (Decidable.not_not.mp family))

/-- A connect is its sequence, and records the code where that fails. -/
theorem meets_connect_iff {c : Connector} {endpoint : String} {port : UInt32}
    {timeout : Option Duration} {post : Except ConnectError Connection × Connector → σ → Prop} :
    (c.connect endpoint port timeout).Meets K s post ↔
      (sequence endpoint port timeout).Meets K s c (fun socket c' => post (.ok socket, c'))
        fun e c' => post (.error e, c'.record e.code) := by
  rw [connect, Program.meets_bind, Step.meets_run_iff]
  rfl

end Connector
end StreamTransport
