import StreamTransport.Proofs.Connect.Configured
import StreamTransport.Proofs.Connect.Runs
import StreamTransport.Proofs.System.Conceded

/-!
# Options that never decide a connect

A connected socket is configured by the answers to three requests: its name, the
raise of its receive buffer, and a look at the token. The options of TCP are
tried on the way, in the same order and with the same values whatever the kernel
answers, and nothing depends on whether they are set.
-/

set_option autoImplicit false

namespace StreamTransport

open Program

def Sign.setting? : Sign → Option (Descriptor × SocketOption × Nat)
  | .setOption d option value _ => some (d, option, value)
  | _ => none

/-- The options that the kernel was asked to set, with the values, in this order. -/
def settingsAsked (shown : List Sign) : List (Descriptor × SocketOption × Nat) :=
  shown.filterMap Sign.setting?

/-- Those among them that are only tried. -/
def trials (shown : List Sign) : List (Descriptor × SocketOption × Nat) :=
  (settingsAsked shown).filter fun setting => setting.2.1.isTried

/-- Whatever shows but the options that are only tried. -/
def Sign.isFirm : Sign → Bool
  | .setOption _ option _ _ => !option.isTried
  | _ => true

def Sign.isOption : Sign → Bool
  | .getOption _ _ _ => true
  | .setOption _ _ _ _ => true
  | _ => false

/-- What the kernel is asked for when options are tried on a descriptor. -/
def Descriptor.asks (d : Descriptor) (options : List (SocketOption × Nat)) :
    List (Descriptor × SocketOption × Nat) :=
  options.map fun option => (d, option.1, min option.2 optionLimit)

section

variable {d : Descriptor} {options : List (SocketOption × Nat)} {shown : List Sign}

theorem Descriptor.Tried.not_mem (tried : d.Tried options shown)
    (each : ∀ option ∈ options, option.1.isTried) {sign : Sign} (firm : sign.isFirm) :
    sign ∉ shown := by
  induction tried with
  | nil => exact List.not_mem_nil
  | cons option value answer tried ih =>
    have here : option.isTried := each (option, value) List.mem_cons_self
    have later := ih fun option there => each option (List.mem_cons_of_mem _ there)
    rintro (_ | ⟨_, there⟩)
    · simp [Sign.isFirm, here] at firm
    · exact later there

theorem trials_append (first rest : List Sign) :
    trials (first ++ rest) = trials first ++ trials rest := by
  simp [trials, settingsAsked]

theorem Descriptor.Tried.trials_eq (tried : d.Tried options shown)
    (each : ∀ option ∈ options, option.1.isTried) : trials shown = d.asks options := by
  induction tried with
  | nil => rfl
  | cons option value answer tried ih =>
    have here : option.isTried := each (option, value) List.mem_cons_self
    have later := ih fun option there => each option (List.mem_cons_of_mem _ there)
    simp_all [trials, settingsAsked, Sign.setting?, Descriptor.asks]

end

/-- What is asked for does not depend on what is conceded. -/
theorem settingsAsked_conceded (events : List Event) :
    settingsAsked (signs (conceded events)) = settingsAsked (signs events) := by
  have same : ∀ e : Event, (e.conceded?.bind Event.sign?).bind Sign.setting? =
      e.sign?.bind Sign.setting? := by
    rintro ⟨request, answer⟩
    cases request with
    | note notice => cases h : notice.isRefusal <;> simp [Event.conceded?, Event.sign?, h]
    | setOption d option value => rfl
    | _ => rfl
  simp only [settingsAsked, signs, conceded, List.filterMap_filterMap]
  exact congrArg (List.filterMap · events) (funext same)

namespace Connector

/-! ### Two runs -/

section

variable {α β : Type} {c : Connector} {socket : Connection}

theorem Step.concedes_bind {p : Step α} {f : α → Step β} (h : (p.run.run c).Concedes)
    (h' : ∀ a c, ((f a).run.run c).Concedes) : ((p >>= f).run.run c).Concedes := by
  rw [Step.run_bind]
  refine h.bind ?_
  rintro ⟨_ | a, c⟩
  · exact .pure _
  · exact h' a c

theorem firm_localText : (localText socket).Only Call.isFirm := by
  have name : (Call.localName socket.descriptor).isFirm := trivial
  have address : socket.descriptor.localAddress.Only Call.isFirm := by
    refine (Attempt.Only.ofReply (.perform name) _).bind fun raw => .of_run ?_
    exact Program.Only.pure _
  refine address.bind fun address => ?_
  split
  · exact .pure _
  · exact .throw _

theorem concedes_recordLocal : ((recordLocal socket).run.run c).Concedes := by
  have close : (Call.close socket.descriptor).isFirm := trivial
  have closed : socket.descriptor.close.Concedes := .of_only (.perform close)
  have noted : ∀ cause, (Journal.note (.localAddressFailed cause) : Program Unit).Concedes := by
    intro cause
    have note : (Call.note (.localAddressFailed cause)).isFirm := rfl
    exact .of_only (.perform note)
  rw [recordLocal, Step.run_always_bind]
  refine (Program.Concedes.of_only firm_localText.run).bind ?_
  rintro (cause | ip)
  · dsimp only
    rw [Step.run_always_bind]
    refine (noted cause).bind fun _ => ?_
    split
    · rw [Step.run_always_bind]
      exact closed.bind fun _ => .pure _
    · exact .pure _
  · exact .pure _

theorem concedes_configureOptions : (c.configureOptions socket).run.Concedes := by
  have looked : (Attempt.always c.cancel.isRequested >>= fun set =>
      (if set then throw .cancelled else pure () : Attempt ConnectError Unit)).run.Concedes := by
    refine Attempt.concedes_bind
      (Attempt.concedes_always (.of_only c.cancel.firm_isRequested)) fun set => ?_
    cases set with
    | false => exact .pure _
    | true => exact .pure _
  have failed : ∀ (cause : Failure) (rest : Unit → Attempt ConnectError Unit),
      (Attempt.always (Journal.note (.receiveBufferFailed cause)) >>= fun _ =>
        (throw (.configure cause) >>= rest : Attempt ConnectError Unit)).run.Concedes := by
    intro cause rest
    have note : (Call.note (.receiveBufferFailed cause)).isFirm := rfl
    exact Attempt.concedes_bind (Attempt.concedes_always (.of_only (.perform note)))
      fun _ => .pure _
  have raised := Attempt.concedes_always (ε := ConnectError) (.of_only
    (socket.descriptor.firm_raiseReceiveBuffer Descriptor.leastReceiveBuffer).run)
  cases tcp : socket.kind.hasTcpOptions with
  | false =>
    simp only [configureOptions, tcp, Bool.false_eq_true, if_false]
    refine Attempt.concedes_bind raised ?_
    rintro (cause | _)
    · exact failed cause _
    · exact looked
  | true =>
    simp only [configureOptions, tcp, if_true]
    refine Attempt.concedes_bind (Attempt.concedes_always
      (Descriptor.concedes_tryOption rfl _ fun _ => rfl)) fun _ => ?_
    refine Attempt.concedes_bind raised ?_
    rintro (cause | _)
    · exact failed cause _
    · exact Attempt.concedes_bind (Attempt.concedes_always (Descriptor.concedes_tryKeepAlive _ _))
        fun _ => looked

theorem concedes_configure : ((configure socket).run.run c).Concedes := by
  have close : (Call.close socket.descriptor).isFirm := trivial
  have options : ∀ c', ((do
      Step.ofAttempt ((configureOptions (← get) socket).orElseClean socket.descriptor.close)
      return socket : Step Connection).run.run c').Concedes := by
    intro c'
    refine Step.concedes_bind (p := get) (.pure _) fun c' _ => ?_
    refine Step.concedes_bind ?_ fun _ _ => .pure _
    rw [Step.run_ofAttempt]
    exact (Attempt.concedes_orElseClean concedes_configureOptions
      (.of_only (.perform close))).map _
  unfold configure
  split
  · exact Step.concedes_bind concedes_recordLocal fun _ c' => options c'
  · exact options c

end

/-! ### What decides -/

/-- What makes configuring fail: the name of the socket, a raise of its receive buffer that is
refused, or the token. -/
inductive Fails (token : Cancellation) (socket : Connection) (shown : List Sign) :
    ConnectError → Prop
  | unnamed (answer : Reply KernelAddress) (cause : Failure) (nowhere : ipOf answer = none)
      (there : .localName socket.descriptor answer ∈ shown) :
      Fails token socket shown (.configure cause)
  | unraised (value : Nat) (errno : Errno)
      (there : .setOption socket.descriptor .receiveBuffer value (.error errno) ∈ shown) :
      Fails token socket shown
        (.configure (.socket (.setOption errno "SO_RCVBUF")))
  | cancelled (look : Sign) (looked : token.Looked true look) (there : look ∈ shown) :
      Fails token socket shown .cancelled

/-- The receive buffer is set to its least size only, and only where what was read is less. -/
def OnlyRaises (d : Descriptor) (shown : List Sign) : Prop :=
  ∀ (value : Nat) answer, .setOption d .receiveBuffer value answer ∈ shown →
    value = 32768 ∧ ∃ size : Int, size < value ∧
      ∀ read, .getOption d .receiveBuffer read ∈ shown ↔ read = .ok size

section

variable {token : Cancellation} {s : Settings} {socket : Connection} {shown : List Sign}
  {d : Descriptor} {r : Except ConnectError Connection}

theorem isTried_of_mem_triedBefore {kind : ConnectionKind} {option : SocketOption × Nat}
    (there : option ∈ triedBefore kind) : option.1.isTried := by
  unfold triedBefore at there
  split at there
  · obtain rfl := List.mem_singleton.mp there
    rfl
  · cases there

theorem isTried_of_mem_triedAfter {kind : ConnectionKind} {option : SocketOption × Nat}
    (there : option ∈ triedAfter s kind) : option.1.isTried := by
  unfold triedAfter at there
  split at there
  · exact Descriptor.isTried_of_mem_keepAliveOptions there
  · cases there

/-- What is firm was asked to raise the receive buffer, or in the end. -/
theorem mem_optioned {before buffer after last : List Sign} {kind : ConnectionKind}
    (tried : d.Tried (triedBefore kind) before) (tried' : d.Tried (triedAfter s kind) after)
    {sign : Sign} (firm : sign.isFirm) :
    sign ∈ before ++ buffer ++ after ++ last ↔ sign ∈ buffer ∨ sign ∈ last := by
  have notBefore := tried.not_mem (fun _ => isTried_of_mem_triedBefore) firm
  have notAfter := tried'.not_mem (fun _ => isTried_of_mem_triedAfter) firm
  simp [notBefore, notAfter]

theorem isFirm_looked {set : Bool} {look : Sign} (looked : token.Looked set look) :
    look.isFirm := by
  cases looked <;> rfl

/-- A name that was told and a token that was not found set make nothing fail, nor does a raise that
was not refused. -/
theorem not_fails {name before buffer after : List Sign} {look : Sign} {kind : ConnectionKind}
    (named : Named socket name) (tried : d.Tried (triedBefore kind) before)
    (raised : socket.descriptor.Raised Descriptor.leastReceiveBuffer (.ok ()) buffer)
    (tried' : d.Tried (triedAfter s kind) after) (looked : token.Looked false look)
    (e : ConnectError) :
    ¬Fails token socket (name ++ (before ++ buffer ++ after ++ [look])) e := by
  have firmly : ∀ sign : Sign, sign.isFirm →
      (sign ∈ name ++ (before ++ buffer ++ after ++ [look]) ↔
        sign ∈ name ∨ sign ∈ buffer ∨ sign ∈ [look]) := by
    intro sign firm
    rw [List.mem_append, mem_optioned tried tried' firm]
  rintro (⟨answer, cause, nowhere, there⟩ | ⟨value, errno, there⟩ | ⟨look', looked', there⟩)
  · rcases (firmly _ rfl).mp there with there | there | there
    · cases named with
      | unasked => cases there
      | told answer' ip _ here => simp_all
    · cases raised <;> simp at there
    · cases looked <;> simp at there
  · rcases (firmly _ rfl).mp there with there | there | there
    · cases named <;> simp at there
    · cases raised <;> simp at there
    · cases looked <;> simp at there
  · rcases (firmly _ (isFirm_looked looked')).mp there with there | there | there
    · cases named <;> cases looked' <;> simp at there
    · cases raised <;> cases looked' <;> simp at there
    · cases looked <;> cases looked' <;> simp at there

/-- How configuring ends is how what decides it was answered. -/
theorem Configured.ends (configured : Configured token s socket r shown) :
    match r with
    | .ok connected => connected = socket ∧ ∀ e, ¬Fails token socket shown e
    | .error e => Fails token socket shown e := by
  cases configured with
  | unnamed answer cause family nowhere => exact .unnamed answer cause nowhere (by simp)
  | optioned name rest r named optioned =>
    cases optioned with
    | unraised before buffer errno tried raised =>
      cases raised with
      | asked size small =>
        refine .unraised (min Descriptor.leastReceiveBuffer Descriptor.optionLimit) errno ?_
        simp
    | looked before buffer after set look tried raised tried' looked =>
      cases set with
      | true => exact .cancelled look looked (by simp)
      | false => exact ⟨rfl, not_fails named tried raised tried' looked⟩

/-! ### The receive buffer -/

theorem onlyRaises_of_buffer {answer : Reply Unit} {buffer : List Sign}
    (raised : d.Raised Descriptor.leastReceiveBuffer answer buffer)
    (same : ∀ sign : Sign, sign.isFirm → sign.isOption → (sign ∈ shown ↔ sign ∈ buffer)) :
    OnlyRaises d shown := by
  intro value answer' there
  rw [same _ rfl rfl] at there
  cases raised with
  | unread errno => simp at there
  | enough size large => simp at there
  | asked size small answer =>
    have asked : value = min Descriptor.leastReceiveBuffer Descriptor.optionLimit := by simp_all
    have least : value = 32768 := asked
    have less : size.toNat < 32768 := small
    refine ⟨least, size, by omega, fun read => ?_⟩
    rw [same _ rfl rfl]
    simp

theorem Named.not_mem_of_isOption {name : List Sign} (named : Named socket name) {sign : Sign}
    (option : sign.isOption) : sign ∉ name := by
  cases named with
  | unasked => exact List.not_mem_nil
  | told =>
    rintro (_ | ⟨_, ⟨⟩⟩)
    cases option

theorem not_mem_ending_of_isOption {set : Bool} {look : Sign} (looked : token.Looked set look)
    {sign : Sign} (option : sign.isOption) :
    sign ∉ look :: if set then [.close d] else [] := by
  cases looked with
  | found set millis => cases set <;> cases sign <;> simp_all [Sign.isOption]
  | failed errno millis => cases sign <;> simp_all [Sign.isOption]

theorem Configured.onlyRaises (configured : Configured token s socket r shown) :
    OnlyRaises socket.descriptor shown := by
  cases configured with
  | unnamed answer cause family nowhere =>
    intro value answer' there
    split at there <;> simp at there
  | optioned name rest r named optioned =>
    cases optioned with
    | unraised before buffer errno tried raised =>
      refine onlyRaises_of_buffer raised fun sign firm option => ?_
      have notName := named.not_mem_of_isOption option
      have notBefore := tried.not_mem (fun _ => isTried_of_mem_triedBefore) firm
      have notClose : sign ≠ .close socket.descriptor := by
        rintro rfl
        cases option
      simp [notName, notBefore, notClose]
    | looked before buffer after set look tried raised tried' looked =>
      refine onlyRaises_of_buffer raised fun sign firm option => ?_
      have notName := named.not_mem_of_isOption option
      have notEnding := not_mem_ending_of_isOption (d := socket.descriptor) looked option
      simp only [List.mem_append (s := name), mem_optioned tried tried' firm, notName, notEnding,
        false_or, or_false]

/-! ### What is tried -/

/-- The options of TCP that are tried on a socket, in order, with their values, none of which has
more than 31 bits. -/
def wanted (s : Settings) (socket : Connection) : List (Descriptor × SocketOption × Nat) :=
  let d := socket.descriptor
  let k := s.keepAlive
  let options := [(d, .noDelay, 1), (d, .keepAlive, if k.enabled then 1 else 0)] ++
    (if k.enabled then [
      (d, .keepIdle, min k.idleSecs.toNat 0x7FFFFFFF),
      (d, .keepCount, min k.retries.toNat 0x7FFFFFFF),
      (d, .keepInterval, min k.intervalSecs.toNat 0x7FFFFFFF)] else []) ++
    [(d, .userTimeout, min s.ackTimeoutMs.toNat 0x7FFFFFFF)]
  match socket.kind with
  | .tcp => options
  | .vsock => options
  | .unix => []
  | .external => []

theorem Named.trials_eq_nil {name : List Sign} (named : Named socket name) : trials name = [] := by
  cases named <;> rfl

theorem trials_raised {least : Nat} {answer : Reply Unit} {buffer : List Sign}
    (raised : d.Raised least answer buffer) : trials buffer = [] := by
  cases raised <;> rfl

theorem trials_ending {set : Bool} {look : Sign} (looked : token.Looked set look) :
    trials (look :: if set then [.close d] else []) = [] := by
  cases looked with
  | found set millis => cases set <;> rfl
  | failed errno millis => rfl

theorem wanted_eq_asks (s : Settings) (socket : Connection) :
    wanted s socket = socket.descriptor.asks (triedBefore socket.kind) ++
      socket.descriptor.asks (triedAfter s socket.kind) := by
  rcases socket with ⟨d, family, kind⟩
  rcases s with ⟨⟨enabled, idleSecs, retries, intervalSecs⟩, ackTimeoutMs, _⟩
  -- which options there are is decided by the kind and the switch alone
  cases kind <;> cases enabled <;> rfl

/-- The options are tried in their order. Where configuring comes to its last look at the token, all
of them have been. -/
theorem Configured.trials_eq (configured : Configured token s socket r shown) :
    trials shown <+: wanted s socket ∧
    ((∀ cause, r ≠ .error (.configure cause)) → trials shown = wanted s socket) := by
  rw [wanted_eq_asks]
  cases configured with
  | unnamed answer cause family nowhere =>
    have none : trials (.localName socket.descriptor answer ::
        if socket.kind = .external then [] else [.close socket.descriptor]) = [] := by
      split <;> rfl
    rw [none]
    exact ⟨List.nil_prefix, fun other => absurd rfl (other _)⟩
  | optioned name rest r named optioned =>
    rw [trials_append, named.trials_eq_nil, List.nil_append]
    cases optioned with
    | unraised before buffer errno tried raised =>
      have close : trials [.close socket.descriptor] = [] := rfl
      rw [trials_append, trials_append, trials_raised raised, close, List.append_nil,
        List.append_nil, tried.trials_eq fun _ => isTried_of_mem_triedBefore]
      exact ⟨List.prefix_append _ _, fun other => absurd rfl (other _)⟩
    | looked before buffer after set look tried raised tried' looked =>
      rw [trials_append, trials_append, trials_append, trials_raised raised, trials_ending looked,
        List.append_nil, List.append_nil, tried.trials_eq fun _ => isTried_of_mem_triedBefore,
        tried'.trials_eq fun _ => isTried_of_mem_triedAfter]
      exact ⟨List.prefix_rfl, fun _ => rfl⟩

end

/-- Whatever options of TCP the kernel refuses, configuring ends alike and asks for the same options
with the same values. Those that are only tried are tried in their order, each value cut to what the
kernel can be asked for. Configuring fails by the name, by a raise of the receive buffer that is
refused, or by the token, and by nothing else, and the receive buffer is only ever raised. -/
theorem best_effort_never_decides {c c₁ c₂ : Connector} {socket : Connection}
    {events events' : List Event} {r r' : Except ConnectError Connection}
    (runs : Runs ((configure socket).run.run c) events (r, c₁))
    (runs' : Runs ((configure socket).run.run c) events' (r', c₂))
    (alike : AnsweredAlike (conceded events) (conceded events')) :
    (r = r' ∧ c₁ = c₂ ∧ settingsAsked (signs events) = settingsAsked (signs events')) ∧
    (trials (signs events) <+: wanted c.settings socket ∧
      ((∀ cause, r ≠ .error (.configure cause)) →
        trials (signs events) = wanted c.settings socket)) ∧
    (∀ connected, r = .ok connected →
      connected = socket ∧ ∀ e, ¬Fails c.cancel socket (signs events) e) ∧
    (∀ e, r = .error e → Fails c.cancel socket (signs events) e) ∧
    OnlyRaises socket.descriptor (signs events) := by
  obtain ⟨same, ended⟩ := concedes_configure.eq_of_answeredAlike runs runs' alike
  obtain ⟨rfl, rfl⟩ := Prod.mk.inj ended
  have asked : settingsAsked (signs events) = settingsAsked (signs events') := by
    rw [← settingsAsked_conceded, same, settingsAsked_conceded]
  have configured := configured_of_runs runs
  have ends := configured.ends
  refine ⟨⟨rfl, rfl, asked⟩, configured.trials_eq, ?_, ?_, configured.onlyRaises⟩
  · rintro connected rfl
    exact ends
  · rintro e rfl
    exact ends

section

variable {c : Connector} {socket : Connection} {d : Descriptor}

/-- An option that is tried, and what the kernel answers. -/
def trying (d : Descriptor) (option : SocketOption) (value : Nat) (notice : Failure → Notice) :
    Reply Unit → List Event
  | .ok () => [⟨.setOption d option (min value Descriptor.optionLimit), (.ok () : Reply Unit)⟩]
  | .error errno =>
    [⟨.setOption d option (min value Descriptor.optionLimit), (.error errno : Reply Unit)⟩,
      ⟨.note (notice (.socket (.setOption errno option.name))), ()⟩]

theorem runs_tryOption (option : SocketOption) (value : Nat) (notice : Failure → Notice)
    (answer : Reply Unit) :
    Runs (d.tryOption option value notice) (trying d option value notice answer) () := by
  cases answer with
  | ok _ => exact .call _ (.done _)
  | error errno => exact .call _ (.call _ (.done _))

theorem runs_tryOptions (answers : SocketOption → Reply Unit) (notice : Failure → Notice)
    (options : List (SocketOption × Nat)) :
    Runs (options.forM fun option => d.tryOption option.1 option.2 notice)
      (options.flatMap fun option => trying d option.1 option.2 notice (answers option.1)) () := by
  induction options with
  | nil => exact .done _
  | cons option options ih =>
    rw [List.flatMap_cons]
    exact (runs_tryOption _ _ _ _).bind ih

variable {size : Int} (large : Descriptor.leastReceiveBuffer ≤ size.toNat)
  (answers : SocketOption → Reply Unit)

/-- The requests of configuring a socket that has no internet address, where the options of TCP are
answered so. -/
def tuned (c : Connector) (d : Descriptor) (size : Int) (answers : SocketOption → Reply Unit) :
    List Event :=
  let options := Descriptor.keepAliveOptions c.settings.keepAlive c.settings.ackTimeoutMs
  let kept := options.flatMap fun option =>
    trying d option.1 option.2 .optionFailed (answers option.1)
  trying d .noDelay 1 .noDelayFailed (answers .noDelay) ++
    ([⟨.getOption d .receiveBuffer, (.ok size : Reply Int)⟩] ++ (kept ++ c.cancel.look false))

include large

theorem runs_configure_vsock :
    Runs ((configure ⟨d, .vsock, .vsock⟩).run.run c) (tuned c d size answers)
      (.ok ⟨d, .vsock, .vsock⟩, c) := by
  have looked := Attempt.runs_always (ε := ConnectError) (c.cancel.runs_isRequested false)
  have kept := Attempt.runs_always (ε := ConnectError) (runs_tryOptions (d := d) answers
    .optionFailed (Descriptor.keepAliveOptions c.settings.keepAlive c.settings.ackTimeoutMs))
  have raised := Attempt.runs_always (ε := ConnectError) (runs_raiseReceiveBuffer large d)
  have options : Runs (c.configureOptions ⟨d, .vsock, .vsock⟩).run (tuned c d size answers)
      (.ok ()) := by
    refine Attempt.runs_bind (Attempt.runs_always (runs_tryOption _ _ _ _)) ?_
    refine Attempt.runs_bind raised ?_
    exact Attempt.runs_bind kept (looked.map rfl)
  exact (Step.runs_ofAttempt (Attempt.runs_orElseClean_ok options)).map rfl

end

/-- A VSOCK socket, once with all options granted and once with two of them refused. It is kept both
times, and asked for the same, the idle time cut to what the kernel can be asked for. -/
theorem best_effort_never_decides_vsock :
    let k : KeepAlive := { idleSecs := 0xFFFFFFFF, retries := 7, intervalSecs := 11 }
    let c : Connector := ⟨{ keepAlive := k, ackTimeoutMs := 20000 }, ⟨3⟩, none, none⟩
    let socket : Connection := ⟨5, .vsock, .vsock⟩
    ∃ events events',
      Runs ((configure socket).run.run c) events (.ok socket, c) ∧
      Runs ((configure socket).run.run c) events' (.ok socket, c) ∧
      AnsweredAlike (conceded events) (conceded events') ∧
      (∃ errno, .setOption 5 .keepIdle 0x7FFFFFFF (.error errno) ∈ signs events') ∧
      settingsAsked (signs events) = settingsAsked (signs events') ∧
      trials (signs events) = [(5, .noDelay, 1), (5, .keepAlive, 1), (5, .keepIdle, 0x7FFFFFFF),
        (5, .keepCount, 7), (5, .keepInterval, 11), (5, .userTimeout, 20000)] := by
  intro k c socket
  let refusing : SocketOption → Reply Unit := fun option =>
    if option = .noDelay ∨ option = .keepIdle then .error ⟨92⟩ else .ok ()
  have large : Descriptor.leastReceiveBuffer ≤ (65536 : Int).toNat := by decide
  have runs := runs_configure_vsock (c := c) (d := 5) large fun _ => .ok ()
  have runs' := runs_configure_vsock (c := c) (d := 5) large refusing
  have alike : AnsweredAlike (conceded (tuned c 5 65536 fun _ => .ok ()))
      (conceded (tuned c 5 65536 refusing)) := .refl _
  obtain ⟨⟨-, -, asked⟩, ⟨-, all⟩, -⟩ := best_effort_never_decides runs runs' alike
  have refused : (signs (tuned c 5 65536 refusing))[3]? =
      some (.setOption 5 .keepIdle 0x7FFFFFFF (.error ⟨92⟩)) := rfl
  exact ⟨_, _, runs, runs', alike, ⟨_, List.mem_of_getElem? refused⟩, asked,
    (all nofun).trans rfl⟩

end Connector
end StreamTransport
