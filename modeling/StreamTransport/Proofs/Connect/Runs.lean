import StreamTransport.Proofs.Connect.Steps

/-!
# Runs of a connect

The run of a connect to a path in which the kernel grants every request, where
what the last look at the token finds decides how it ends, and that of a connect
to a host whose token is set. The runs of configuring serve every socket that no
options of TCP are tried on.
-/

set_option autoImplicit false

namespace StreamTransport

open Program

/-- A look at a token, and what the kernel answers. -/
def Cancellation.look (token : Cancellation) (set : Bool) : List Event :=
  [⟨.clock, (0 : Nat)⟩, ⟨.signalCount, (0 : Nat)⟩, ⟨.clock, (0 : Nat)⟩,
    ⟨.poll 0 [⟨token.descriptor, .read⟩] (some 0), PollAnswer.returned fun _ => set⟩]

theorem Wait.runs_attempts {entries : List PollEntry} (deadline now signals : Nat)
    (flagged : Fin entries.length → Bool) :
    Runs (attempts entries (some deadline) signals)
      [⟨.clock, now⟩,
        ⟨.poll signals entries (some (millisLeft deadline now)), PollAnswer.returned flagged⟩]
      (.ok flagged) := by
  rw [attempts]
  exact .call _ (.call _ (.done _))

theorem Cancellation.runs_isRequested (token : Cancellation) (set : Bool) :
    Runs token.isRequested (token.look set) set := by
  have attempted : Runs (Wait.attempts [⟨token.descriptor, .read⟩] (some 0) 0) _ _ :=
    Wait.runs_attempts 0 0 0 fun _ => set
  have polled : Runs (Wait.poll [⟨token.descriptor, .read⟩] (some .zero)).run (token.look set)
      (.ok fun _ => set) := .call _ (.call _ (attempted.bind (.done _)))
  have found : Runs (Wait.any [token.descriptor] (some .zero)).run (token.look set)
      (.ok (if set then some 0 else none)) := by
    cases set with
    | false => exact polled.bind (.done _)
    | true => exact polled.bind (.done _)
  cases set with
  | false => exact found.bind (.done _)
  | true => exact found.bind (.done _)

namespace Connector

variable {c : Connector} {endpoint : String} {port : UInt32} {timeout : Option Duration}
  {address : UnixAddress} {raw : Bytes} {name : KernelAddress} {ip : IpText} {size : Int}

/-- The requests of a path that is granted, up to the last look at the token. -/
def granted (d : Descriptor) (raw : Bytes) (name : KernelAddress) (size : Int) : List Event :=
  [⟨.socket .unix streamType 0, (.ok d : Reply Descriptor)⟩,
    ⟨.connect d raw, (.ok () : Reply Unit)⟩,
    ⟨.localName d, (.ok name : Reply KernelAddress)⟩,
    ⟨.getOption d .receiveBuffer, (.ok size : Reply Int)⟩]

theorem runs_reach (encodes : SocketAddress.encode? (.unix address) = some raw) (d : Descriptor) :
    Runs ((reach timeout (.unix address)).run.run c)
      [⟨.socket .unix streamType 0, (.ok d : Reply Descriptor)⟩,
        ⟨.connect d raw, (.ok () : Reply Unit)⟩] (.ok ⟨d, .unix, .unix⟩, c) := by
  have created : Runs ((Socket.stream .unix).mapError ConnectError.socket).run
      [⟨.socket .unix streamType 0, (.ok d : Reply Descriptor)⟩] (.ok ⟨d, .unix⟩) :=
    .call _ (.done _)
  have requested : Runs (Socket.request ⟨d, .unix⟩ (.unix address)).run
      [⟨.connect d raw, (.ok () : Reply Unit)⟩] (.ok (.ok ())) := by
    unfold Socket.request
    rw [encodes]
    exact .call _ (.done _)
  have connected : Runs (Socket.connect ⟨d, .unix⟩ (.unix address) .unix).run
      [⟨.connect d raw, (.ok () : Reply Unit)⟩] (.ok ⟨d, .unix, .unix⟩) :=
    Attempt.runs_orElseClean_ok (requested.map rfl)
  exact Step.runs_ofAttempt (Attempt.runs_bind created (connected.map rfl))

theorem runs_localAddress {local' : SocketAddress}
    (decoded : SocketAddress.decode? name = some local') (d : Descriptor) :
    Runs (Descriptor.localAddress d).run [⟨.localName d, (.ok name : Reply KernelAddress)⟩]
      (.ok local') := by
  refine .call _ ?_
  change Runs (pure (addressOfName name)) [] (.ok local')
  rw [addressOfName, decoded]
  exact .done _

theorem runs_recordLocal (addressed : ipOf (.ok name) = some ip) (socket : Connection) :
    Runs ((recordLocal socket).run.run c)
      [⟨.localName socket.descriptor, (.ok name : Reply KernelAddress)⟩]
      (.ok (), { c with clientAddress := some ip }) := by
  obtain ⟨a, decoded, text⟩ := Option.bind_eq_some_iff.mp addressed
  have textual : Runs (localText socket).run
      [⟨.localName socket.descriptor, (.ok name : Reply KernelAddress)⟩] (.ok ip) := by
    refine (runs_localAddress decoded _).map ?_
    dsimp only [ExceptT.bindCont]
    rw [text]
    rfl
  exact (Step.runs_always textual).map rfl

theorem runs_raiseReceiveBuffer {least : Nat} (large : least ≤ size.toNat) (d : Descriptor) :
    Runs (d.raiseReceiveBuffer least).run
      [⟨.getOption d .receiveBuffer, (.ok size : Reply Int)⟩] (.ok ()) := by
  refine .call _ ?_
  change Runs (if size.toNat < least then _ else pure (Except.ok ())) [] _
  rw [if_neg (Nat.not_lt.mpr large)]
  exact .done _

theorem runs_configureOptions (large : Descriptor.leastReceiveBuffer ≤ size.toNat)
    (socket : Connection) (plain : socket.kind.hasTcpOptions = false) (set : Bool) :
    Runs (c.configureOptions socket).run
      (⟨.getOption socket.descriptor .receiveBuffer, (.ok size : Reply Int)⟩ :: c.cancel.look set)
      (if set then .error .cancelled else .ok ()) := by
  simp only [configureOptions, plain, Bool.false_eq_true, if_false]
  refine Attempt.runs_bind (Attempt.runs_always (runs_raiseReceiveBuffer large _)) ?_
  have looked := Attempt.runs_always (ε := ConnectError) (c.cancel.runs_isRequested set)
  cases set with
  | false => exact looked.map rfl
  | true => exact looked.map rfl

/-- How the options end is how configuring ends. -/
theorem runs_configure {socket : Connection} (family : socket.family ≠ .vsock)
    (addressed : ipOf (.ok name) = some ip) {events : List Event} {r : Except ConnectError Unit}
    (options : Runs ((configureOptions { c with clientAddress := some ip }
      socket).orElseClean socket.descriptor.close).run events r) :
    Runs ((configure socket).run.run c)
      ([⟨.localName socket.descriptor, (.ok name : Reply KernelAddress)⟩] ++ events)
      (r.map fun _ => socket, { c with clientAddress := some ip }) := by
  unfold configure
  rw [if_pos family]
  refine Step.runs_bind (runs_recordLocal addressed socket) ?_
  cases r with
  | ok _ => exact (Step.runs_ofAttempt options).map rfl
  | error e => exact (Step.runs_ofAttempt options).map rfl

theorem runs_sequence (named : Target.ofEndpoint endpoint port = .ok (.unix address))
    (encodes : SocketAddress.encode? (.unix address) = some raw) {d : Descriptor}
    (addressed : ipOf (.ok name) = some ip) {events : List Event} {r : Except ConnectError Unit}
    (options : Runs ((configureOptions { c with clientAddress := some ip }
      ⟨d, .unix, .unix⟩).orElseClean d.close).run events r) :
    Runs ((sequence endpoint port timeout).run.run c)
      ([⟨.socket .unix streamType 0, (.ok d : Reply Descriptor)⟩,
        ⟨.connect d raw, (.ok () : Reply Unit)⟩] ++
        ([⟨.localName d, (.ok name : Reply KernelAddress)⟩] ++ events))
      (r.map fun _ => ⟨d, .unix, .unix⟩, { c with clientAddress := some ip }) := by
  unfold sequence
  rw [named]
  exact Step.runs_bind (runs_reach encodes d) (runs_configure (by simp) addressed options)

variable (named : Target.ofEndpoint endpoint port = .ok (.unix address))
  (encodes : SocketAddress.encode? (.unix address) = some raw) (d : Descriptor)
  (addressed : ipOf (.ok name) = some ip) (large : Descriptor.leastReceiveBuffer ≤ size.toNat)

include named encodes addressed large

theorem runs_path_connected :
    Runs (c.connect endpoint port timeout) (granted d raw name size ++ c.cancel.look false)
      (.ok ⟨d, .unix, .unix⟩, { c with clientAddress := some ip }) := by
  have options := runs_configureOptions (c := { c with clientAddress := some ip }) large
    ⟨d, .unix, .unix⟩ rfl false
  exact (runs_sequence named encodes addressed (Attempt.runs_orElseClean_ok options)).map rfl

/-- A token that the last look finds set cancels a connect whose address is recorded already. -/
theorem runs_path_cancelled :
    Runs (c.connect endpoint port timeout)
      (granted d raw name size ++ c.cancel.look true ++ [⟨.close d, ()⟩])
      (.error .cancelled, ({ c with clientAddress := some ip }).record
        ConnectError.cancelled.code) := by
  have options := runs_configureOptions (c := { c with clientAddress := some ip }) large
    ⟨d, .unix, .unix⟩ rfl true
  have closed : Runs d.close [⟨.close d, ()⟩] () := .call _ (.done _)
  exact (runs_sequence named encodes addressed
    (Attempt.runs_orElseClean_error options closed)).map rfl

omit named encodes addressed large

/-- A short path, granted with the least the kernel can tell: how it is connected to, and how that
is cancelled at the last look. -/
theorem exists_short_path (c : Connector) (timeout : Option Duration) (d : Descriptor) :
    ∃ raw, Runs (c.connect "/s" 0 timeout)
      (granted d raw ⟨[1, 0], 2⟩ 65536 ++ c.cancel.look false)
      (.ok ⟨d, .unix, .unix⟩, { c with clientAddress := some ⟨"127.0.0.1", false⟩ }) ∧
    Runs (c.connect "/s" 0 timeout)
      (granted d raw ⟨[1, 0], 2⟩ 65536 ++ c.cancel.look true ++ [⟨.close d, ()⟩])
      (.error .cancelled, ({ c with clientAddress := some ⟨"127.0.0.1", false⟩ }).record
        ConnectError.cancelled.code) := by
  have named : Target.ofEndpoint "/s" 0 = .ok (.unix ⟨Text.utf8 "/s"⟩) := by
    simp [Target.ofEndpoint]
  obtain ⟨raw, encodes⟩ := Option.isSome_iff_exists.mp
    (by decide +kernel : (SocketAddress.encode? (.unix ⟨Text.utf8 "/s"⟩)).isSome)
  have addressed : ipOf (.ok ⟨[1, 0], 2⟩) = some ⟨"127.0.0.1", false⟩ := by decide
  have large : Descriptor.leastReceiveBuffer ≤ (65536 : Int).toNat := by decide
  exact ⟨raw, runs_path_connected named encodes d addressed large,
    runs_path_cancelled named encodes d addressed large⟩

/-- The requests of a host with one candidate, up to the first look at the token. -/
def resolved (host : String) (hostPort : UInt16) (candidate : Candidate) (d : Descriptor) :
    List Event :=
  [⟨.resolve host (some hostPort), (.ok ⟨[candidate]⟩ : Outcome Resolution)⟩,
    ⟨.socket candidate.family candidate.sockType candidate.protocol,
      (.ok d : Reply Descriptor)⟩,
    ⟨.note (.connectingToPeer candidate.address), ()⟩]

theorem runs_host_cancelled {host : String} {hostPort : UInt16}
    (named : Target.ofEndpoint endpoint port = .ok (.host host hostPort)) (token : Cancellation)
    (candidate : Candidate) (d : Descriptor) :
    Runs (Connector.connect ⟨{}, token, none, none⟩ endpoint port timeout)
      (resolved host hostPort candidate d ++ (token.look true ++ [⟨.close d, ()⟩] ++
        [⟨.note (.hostConnectFailed host .cancelled), ()⟩]))
      (.error .cancelled, ⟨{}, token, some ConnectError.cancelled.code, none⟩) := by
  have noted : ∀ notice, Runs (Journal.note notice : Program Unit) [⟨.note notice, ()⟩] () :=
    fun _ => .call _ (.done _)
  have closed : Runs d.close [⟨.close d, ()⟩] () := .call _ (.done _)
  have created : Runs (socketFor host ⟨[candidate]⟩ {}).run
      [⟨.socket candidate.family candidate.sockType candidate.protocol,
        (.ok d : Reply Descriptor)⟩] (.ok (⟨d, candidate.family⟩, ⟨0, Nat.one_pos⟩)) := by
    change Runs (socketFrom ⟨[candidate]⟩ {} ⟨0, Nat.one_pos⟩).run _ _
    rw [socketFrom]
    exact .call _ (.done _)
  have cancelled : Runs (Socket.connectWithin ⟨d, candidate.family⟩ candidate.address timeout
      token).run (token.look true ++ [⟨.close d, ()⟩]) (.error .cancelled) :=
    Attempt.runs_bind (Attempt.runs_always (token.runs_isRequested true))
      ((Attempt.runs_always closed).map rfl)
  have reached : Runs ((connectResolved host hostPort timeout).run.run ⟨{}, token, none, none⟩)
      ([⟨.resolve host (some hostPort), (.ok ⟨[candidate]⟩ : Outcome Resolution)⟩] ++
        ([⟨.socket candidate.family candidate.sockType candidate.protocol,
          (.ok d : Reply Descriptor)⟩] ++ ([⟨.note (.connectingToPeer candidate.address), ()⟩] ++
            (token.look true ++ [⟨.close d, ()⟩] ++
              [⟨.note (.hostConnectFailed host .cancelled), ()⟩]))))
      (.error .cancelled, ⟨{}, token, none, none⟩) :=
    Step.runs_bind (Step.runs_always (.call _ (.done _))) (Step.runs_modify (Step.runs_get
      (Step.runs_bind (Step.runs_ofAttempt created)
        (Step.runs_bind (Step.runs_always (noted _))
          (Step.runs_bind (Step.runs_always cancelled) ((Step.runs_always (noted _)).map rfl))))))
  have whole : Runs ((sequence endpoint port timeout).run.run ⟨{}, token, none, none⟩)
      (resolved host hostPort candidate d ++ (token.look true ++ [⟨.close d, ()⟩] ++
        [⟨.note (.hostConnectFailed host .cancelled), ()⟩]))
      (.error .cancelled, ⟨{}, token, none, none⟩) := by
    unfold sequence
    rw [named]
    exact reached.map rfl
  exact whole.map rfl

end Connector
end StreamTransport
