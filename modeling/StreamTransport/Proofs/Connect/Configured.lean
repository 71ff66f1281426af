import StreamTransport.Proofs.Connect.Steps
import StreamTransport.Proofs.System.Signs

/-!
# What configuring a socket shows

The name of the socket, the options that are tried before its receive buffer is
raised, the raise, the options that are tried after that, and a look at the
token. Configuring can end after the name, after the raise and after the look,
and closes the socket where it fails, but for one that was handed in and has no
name.
-/

set_option autoImplicit false

namespace StreamTransport

open Program

/-- What raising a receive buffer shows, and what it was answered in the end. A buffer that cannot
be read or is large enough is left as it is. -/
inductive Descriptor.Raised (d : Descriptor) (least : Nat) : Reply Unit → List Sign → Prop
  | unread (errno : Errno) : Raised d least (.ok ()) [.getOption d .receiveBuffer (.error errno)]
  | enough (size : Int) (large : least ≤ size.toNat) :
      Raised d least (.ok ()) [.getOption d .receiveBuffer (.ok size)]
  | asked (size : Int) (small : size.toNat < least) (answer : Reply Unit) :
      Raised d least answer [.getOption d .receiveBuffer (.ok size),
        .setOption d .receiveBuffer (min least optionLimit) answer]

/-- What trying options shows: each is asked for in its turn, and answered somehow. -/
inductive Descriptor.Tried (d : Descriptor) : List (SocketOption × Nat) → List Sign → Prop
  | nil : Tried d [] []
  | cons {options : List (SocketOption × Nat)} {rest : List Sign} (option : SocketOption)
      (value : Nat) (answer : Reply Unit) (tried : Tried d options rest) :
      Tried d ((option, value) :: options)
        (.setOption d option (min value optionLimit) answer :: rest)

theorem Descriptor.showing_tryOption {d : Descriptor} {option : SocketOption} {value : Nat}
    {notice : Failure → Notice} {shown : List Sign} {post : Unit → List Sign → Prop}
    (h : ∀ answer, post () (shown ++ [.setOption d option (min value optionLimit) answer])) :
    (d.tryOption option value notice).Meets showing shown post := by
  refine Program.meets_bind.mpr (Attempt.meets_run_iff.mpr
    (Attempt.meets_ofReply.mpr (showing_perform.mpr fun answer => ?_)))
  cases (answer : Reply Unit) with
  | ok _ => exact h (.ok ())
  | error errno => exact showing_note.mpr (h (.error errno))

theorem Descriptor.showing_tryOptions {d : Descriptor} {options : List (SocketOption × Nat)}
    {notice : Failure → Notice} {shown : List Sign} {post : Unit → List Sign → Prop}
    (h : ∀ rest, d.Tried options rest → post () (shown ++ rest)) :
    (options.forM fun option => d.tryOption option.1 option.2 notice).Meets showing shown
      post := by
  induction options generalizing shown with
  | nil => simpa using h [] .nil
  | cons option options ih =>
    refine Program.meets_bind.mpr (showing_tryOption fun answer => ih fun rest tried => ?_)
    rw [List.append_assoc]
    exact h _ (.cons option.1 option.2 answer tried)

section

variable {d : Descriptor} {shown : List Sign} {least : Nat}

theorem showing_raiseReceiveBuffer {ok : Unit → List Sign → Prop}
    {err : Failure → List Sign → Prop}
    (settled : ∀ buffer, d.Raised least (.ok ()) buffer → ok () (shown ++ buffer))
    (refused : ∀ errno buffer, d.Raised least (.error errno) buffer →
      err (.socket (.setOption errno SocketOption.receiveBuffer.name)) (shown ++ buffer)) :
    (d.raiseReceiveBuffer least).Meets showing shown ok err := by
  have read : d.receiveBuffer.Meets showing shown
      (fun current shown => Program.Meets showing shown
        (if current < least then (d.setOption .receiveBuffer least).run else pure (.ok ()))
        (Attempt.Ends ok err))
      fun _ => ok () := by
    refine Attempt.meets_bind.mpr (Attempt.meets_ofReply.mpr (showing_perform.mpr ?_))
    intro answer
    cases answer with
    | error errno => exact settled _ (.unread errno)
    | ok size =>
      by_cases small : size.toNat < least
      · rw [Attempt.ends_ok, Attempt.meets_pure, if_pos small]
        refine Attempt.meets_ofReply.mpr (showing_perform.mpr fun answer => ?_)
        rw [List.append_assoc]
        cases answer with
        | error errno => exact refused errno _ (.asked size small _)
        | ok _ => exact settled _ (.asked size small _)
      · rw [Attempt.ends_ok, Attempt.meets_pure, if_neg small]
        exact settled _ (.enough size (Nat.not_lt.mp small))
  refine Program.meets_bind.mpr (Attempt.meets_run_iff.mpr (read.mono (fun _ _ h => h) ?_))
  exact fun cause shown h => Program.meets_bind.mpr (showing_note.mpr h)

end

namespace Connector

/-- The options that are tried on a socket before its receive buffer is raised. -/
def triedBefore (kind : ConnectionKind) : List (SocketOption × Nat) :=
  if kind.hasTcpOptions then [(.noDelay, 1)] else []

/-- Those that are tried after that. -/
def triedAfter (s : Settings) (kind : ConnectionKind) : List (SocketOption × Nat) :=
  if kind.hasTcpOptions then Descriptor.keepAliveOptions s.keepAlive s.ackTimeoutMs else []

/-- What shows once the name is settled: options are tried, the receive buffer is raised, others are
tried, and the token is looked at. The answers to what is tried do not matter. The socket is closed
where the raise is refused and where the token is set. -/
inductive Optioned (token : Cancellation) (s : Settings) (socket : Connection) :
    Except ConnectError Unit → List Sign → Prop
  | unraised (before buffer : List Sign) (errno : Errno)
      (tried : socket.descriptor.Tried (triedBefore socket.kind) before)
      (raised : socket.descriptor.Raised Descriptor.leastReceiveBuffer (.error errno) buffer) :
      Optioned token s socket
        (.error (.configure (.socket (.setOption errno SocketOption.receiveBuffer.name))))
        (before ++ buffer ++ [.close socket.descriptor])
  | looked (before buffer after : List Sign) (set : Bool) (look : Sign)
      (tried : socket.descriptor.Tried (triedBefore socket.kind) before)
      (raised : socket.descriptor.Raised Descriptor.leastReceiveBuffer (.ok ()) buffer)
      (tried' : socket.descriptor.Tried (triedAfter s socket.kind) after)
      (looked : token.Looked set look) :
      Optioned token s socket (if set then .error .cancelled else .ok ())
        (before ++ buffer ++ after ++ look :: if set then [.close socket.descriptor] else [])

/-- What shows before the options of a socket are tried: its name, but of a VSOCK socket. -/
inductive Named (socket : Connection) : List Sign → Prop
  | unasked (family : socket.family = .vsock) : Named socket []
  | told (answer : Reply KernelAddress) (ip : IpText) (family : socket.family ≠ .vsock)
      (here : ipOf answer = some ip) : Named socket [.localName socket.descriptor answer]

/-- What configuring shows, and how it ends. -/
inductive Configured (token : Cancellation) (s : Settings) (socket : Connection) :
    Except ConnectError Connection → List Sign → Prop
  | unnamed (answer : Reply KernelAddress) (cause : Failure) (family : socket.family ≠ .vsock)
      (nowhere : ipOf answer = none) :
      Configured token s socket (.error (.configure cause)) (.localName socket.descriptor answer ::
        if socket.kind = .external then [] else [.close socket.descriptor])
  | optioned (name rest : List Sign) (r : Except ConnectError Unit) (named : Named socket name)
      (optioned : Optioned token s socket r rest) :
      Configured token s socket (r.map fun _ => socket) (name ++ rest)

section

variable {c : Connector} {socket : Connection} {shown : List Sign}

theorem showing_configureOptions {post : Except ConnectError Unit → List Sign → Prop}
    (optioned : ∀ r rest, Optioned c.cancel c.settings socket r rest → post r (shown ++ rest)) :
    ((c.configureOptions socket).orElseClean socket.descriptor.close).Meets showing shown
      (fun _ => post (.ok ())) fun e => post (.error e) := by
  have looked : ∀ before buffer after,
      socket.descriptor.Tried (triedBefore socket.kind) before →
      socket.descriptor.Raised Descriptor.leastReceiveBuffer (.ok ()) buffer →
      socket.descriptor.Tried (triedAfter c.settings socket.kind) after →
      c.cancel.isRequested.Meets showing (shown ++ before ++ buffer ++ after) fun set s =>
        (if set then throw .cancelled else pure () : Attempt ConnectError Unit).Meets showing s
          (fun _ => post (.ok ())) fun e s =>
            socket.descriptor.close.Meets showing s fun _ => post (.error e) := by
    intro before buffer after tried raised tried'
    refine showing_isRequested fun set look looked => ?_
    have ended := optioned _ _ (.looked before buffer after set look tried raised tried' looked)
    cases set with
    | false => simpa using ended
    | true => simpa [showing_close] using ended
  have unraised : ∀ before buffer errno,
      let cause : Failure := .socket (.setOption errno SocketOption.receiveBuffer.name)
      socket.descriptor.Tried (triedBefore socket.kind) before →
      socket.descriptor.Raised Descriptor.leastReceiveBuffer (.error errno) buffer →
      (Journal.note (.receiveBufferFailed cause) : Program Unit).Meets showing
        (shown ++ before ++ buffer) fun _ s => socket.descriptor.close.Meets showing s fun _ =>
          post (.error (.configure cause)) := by
    intro before buffer errno cause tried raised
    have ended := optioned _ _ (.unraised before buffer errno tried raised)
    simpa [showing_note, showing_close] using ended
  cases tcp : socket.kind.hasTcpOptions with
  | false =>
    have before : socket.descriptor.Tried (triedBefore socket.kind) [] := by
      simpa [triedBefore, tcp] using Descriptor.Tried.nil
    have after : socket.descriptor.Tried (triedAfter c.settings socket.kind) [] := by
      simpa [triedAfter, tcp] using Descriptor.Tried.nil
    simp only [configureOptions, tcp, Bool.false_eq_true, if_false, Attempt.meets_orElseClean,
      Attempt.meets_bind, Attempt.meets_always, Attempt.meets_run_iff, Attempt.meets_throw]
    refine showing_raiseReceiveBuffer (fun buffer raised => ?_) fun errno buffer raised => ?_
    · simpa using looked [] buffer [] before raised after
    · simpa using unraised [] buffer errno before raised
  | true =>
    simp only [configureOptions, tcp, if_true, Attempt.meets_orElseClean, Attempt.meets_bind,
      Attempt.meets_always, Attempt.meets_run_iff, Attempt.meets_throw]
    have before : ∀ answer, socket.descriptor.Tried (triedBefore socket.kind)
        [.setOption socket.descriptor .noDelay (min 1 Descriptor.optionLimit) answer] := by
      intro answer
      rw [triedBefore, if_pos tcp]
      exact .cons _ _ answer .nil
    refine Descriptor.showing_tryOption fun answer => ?_
    refine showing_raiseReceiveBuffer (fun buffer raised => ?_) fun errno buffer raised => ?_
    · refine Descriptor.showing_tryOptions fun after tried => ?_
      refine looked _ buffer after (before answer) raised ?_
      rwa [triedAfter, if_pos tcp]
    · exact unraised _ buffer errno (before answer) raised

/-- A name that is no internet address ends it. The socket is then closed, but one that was handed
in is given back. -/
theorem showing_recordLocal {ok : Unit → Connector → List Sign → Prop}
    {err : ConnectError → Connector → List Sign → Prop}
    (recorded : ∀ answer ip, ipOf answer = some ip →
      ok () { c with clientAddress := some ip } (shown ++ [.localName socket.descriptor answer]))
    (unrecorded : ∀ answer cause, ipOf answer = none →
      err (.configure cause) c (shown ++ [.localName socket.descriptor answer] ++
        if socket.kind = .external then [] else [.close socket.descriptor])) :
    (recordLocal socket).Meets showing shown c ok err := by
  rw [recordLocal, Step.meets_bind, Step.meets_always, Attempt.meets_run_iff]
  refine meets_localText trivial recorded fun answer cause nowhere => ?_
  have ended := unrecorded answer cause nowhere
  simp only [Step.meets_bind, Step.meets_always]
  refine showing_note.mpr ?_
  by_cases external : socket.kind = .external
  · rw [if_pos external, List.append_nil] at ended
    rw [if_neg (not_not_intro external)]
    exact ended
  · rw [if_neg external] at ended
    rw [if_pos external, Step.meets_bind, Step.meets_always]
    exact showing_close.mpr ended

theorem configured_of_runs {events : List Event} {r : Except ConnectError Connection}
    {c' : Connector} (runs : Runs ((configure socket).run.run c) events (r, c')) :
    Configured c.cancel c.settings socket r (signs events) := by
  have meets : (configure socket).Meets showing [] c
      (fun connected _ => Configured c.cancel c.settings socket (.ok connected))
      fun e _ => Configured c.cancel c.settings socket (.error e) := by
    -- Recording the address leaves the token and the settings alone.
    refine meets_configure_of (R := fun c' shown =>
      c'.cancel = c.cancel ∧ c'.settings = c.settings ∧ Named socket shown) ?_ ?_ ?_
    · intro family
      refine showing_recordLocal (fun answer ip here => ?_) fun answer cause nowhere => ?_
      · exact ⟨rfl, rfl, .told answer ip family here⟩
      · exact .unnamed answer cause family nowhere
    · exact fun family => ⟨rfl, rfl, .unasked family⟩
    · rintro c' shown ⟨cancel, settings, named⟩
      rw [← cancel, ← settings]
      have ends : ∀ r rest, Optioned c'.cancel c'.settings socket r rest →
          Configured c'.cancel c'.settings socket (r.map fun _ => socket) (shown ++ rest) :=
        fun r rest optioned => .optioned shown rest r named optioned
      exact (showing_configureOptions ends).mono (fun _ _ h => h) fun _ _ h => h
  have ended : Program.Meets showing [] ((configure socket).run.run c) fun outcome shown =>
      Configured c.cancel c.settings socket outcome.1 shown := Step.meets_run_iff.mpr meets
  exact ended.of_shows runs.shows

end

end Connector
end StreamTransport
