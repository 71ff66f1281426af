import StreamTransport.Proofs.Connect.Configured
import StreamTransport.Proofs.Connect.Runs
import StreamTransport.Proofs.Target.Grammar

/-!
# Descriptors that are handed in

A descriptor that is handed in is asked for its name first, and left alone where
it has none of a supported family. Otherwise it is taken over. Then it is either
kept for the connection, or closed once where configuring fails. It is given
back unclosed only where it is named a second time and otherwise than before.
-/

set_option autoImplicit false

namespace StreamTransport

open Program

def Sign.closed? : Sign → Option Descriptor
  | .close d => some d
  | _ => none

/-- The descriptors that were closed, in this order. -/
def closings (shown : List Sign) : List Descriptor := shown.filterMap Sign.closed?

/-- All options that were set are the receive buffer of the descriptor. -/
def OnlyReceiveBuffer (d : Descriptor) (shown : List Sign) : Prop :=
  ∀ d' option value answer, .setOption d' option value answer ∈ shown →
    d' = d ∧ option = .receiveBuffer

theorem closings_append (first rest : List Sign) :
    closings (first ++ rest) = closings first ++ closings rest :=
  List.filterMap_append

theorem OnlyReceiveBuffer.append {d : Descriptor} {first rest : List Sign}
    (h : OnlyReceiveBuffer d first) (h' : OnlyReceiveBuffer d rest) :
    OnlyReceiveBuffer d (first ++ rest) := by
  intro d' option value answer there
  rcases List.mem_append.mp there with there | there
  · exact h d' option value answer there
  · exact h' d' option value answer there

theorem onlyReceiveBuffer_close (d : Descriptor) : OnlyReceiveBuffer d [.close d] := by
  simp [OnlyReceiveBuffer]

theorem onlyReceiveBuffer_localName (d : Descriptor) (answer : Reply KernelAddress) :
    OnlyReceiveBuffer d [.localName d answer] := by
  simp [OnlyReceiveBuffer]

section

variable {shown : List Sign} {d : Descriptor} {least : Nat} {token : Cancellation}

theorem Descriptor.Raised.closings_eq {answer : Reply Unit} {buffer : List Sign}
    (raised : d.Raised least answer buffer) : closings buffer = [] := by
  cases raised <;> rfl

theorem Descriptor.Raised.onlyReceiveBuffer {answer : Reply Unit} {buffer : List Sign}
    (raised : d.Raised least answer buffer) : OnlyReceiveBuffer d buffer := by
  cases raised <;> simp +contextual [OnlyReceiveBuffer]

theorem Cancellation.Looked.closings_eq {set : Bool} {look : Sign}
    (looked : token.Looked set look) : closings [look] = [] := by
  cases looked <;> rfl

theorem Cancellation.Looked.onlyReceiveBuffer {set : Bool} {look : Sign}
    (looked : token.Looked set look) : OnlyReceiveBuffer d [look] := by
  cases looked <;> simp [OnlyReceiveBuffer]

end

namespace Connector

/-! ### What a connect shows that is handed a descriptor -/

/-- What shows once the address is recorded of a connection that takes no options of TCP: the
receive buffer is raised, and the token is looked at. The descriptor is closed where either
fails. -/
inductive Completed (token : Cancellation) (d : Descriptor) :
    Except ConnectError Unit → List Sign → Prop
  | refused (errno : Errno) (buffer : List Sign)
      (raised : d.Raised Descriptor.leastReceiveBuffer (.error errno) buffer) :
      Completed token d
        (.error (.configure (.socket (.setOption errno SocketOption.receiveBuffer.name))))
        (buffer ++ [.close d])
  | cancelled (buffer : List Sign) (look : Sign)
      (raised : d.Raised Descriptor.leastReceiveBuffer (.ok ()) buffer)
      (looked : token.Looked true look) :
      Completed token d (.error .cancelled) (buffer ++ [look] ++ [.close d])
  | ready (buffer : List Sign) (look : Sign)
      (raised : d.Raised Descriptor.leastReceiveBuffer (.ok ()) buffer)
      (looked : token.Looked false look) :
      Completed token d (.ok ()) (buffer ++ [look])

/-- What a connect shows that is handed the descriptor `d`, and how it ends. -/
inductive HandedIn (token : Cancellation) (d : Descriptor) :
    Except ConnectError Connection → List Sign → Prop
  | leftAlone (answer : Reply KernelAddress) (cause : Failure)
      (unnamed : addressOf? answer = none) :
      HandedIn token d (.error (.socket cause)) [.localName d answer]
  | givenBack (answer again : Reply KernelAddress) (address : SocketAddress) (cause : Failure)
      (named : addressOf? answer = some address) (family : address.family ≠ .vsock)
      (unrecorded : ipOf again = none) :
      HandedIn token d (.error (.configure cause)) [.localName d answer, .localName d again]
  | recorded (answer again : Reply KernelAddress) (address : SocketAddress) (ip : IpText)
      (r : Except ConnectError Unit) (rest : List Sign)
      (named : addressOf? answer = some address) (family : address.family ≠ .vsock)
      (recorded : ipOf again = some ip) (completed : Completed token d r rest) :
      HandedIn token d (r.map fun _ => ⟨d, address.family, .external⟩)
        (.localName d answer :: .localName d again :: rest)
  | unrecorded (answer : Reply KernelAddress) (address : SocketAddress)
      (r : Except ConnectError Unit) (rest : List Sign)
      (named : addressOf? answer = some address) (family : address.family = .vsock)
      (completed : Completed token d r rest) :
      HandedIn token d (r.map fun _ => ⟨d, address.family, .external⟩)
        (.localName d answer :: rest)

section

variable {shown : List Sign} {d : Descriptor} {c : Connector} {socket : Connection}
  {endpoint : String} {port : UInt32} {timeout : Option Duration}

/-- Where no options of TCP are tried, nothing shows before the raise or between it and the look. -/
theorem Optioned.completed {s : Settings} {r : Except ConnectError Unit}
    (plain : socket.kind.hasTcpOptions = false) (optioned : Optioned c.cancel s socket r shown) :
    Completed c.cancel socket.descriptor r shown := by
  have nothing : triedBefore socket.kind = [] ∧ triedAfter s socket.kind = [] := by
    simp [triedBefore, triedAfter, plain]
  cases optioned with
  | unraised before buffer errno tried raised =>
    rw [nothing.1] at tried
    cases tried
    exact .refused errno buffer raised
  | looked before buffer after set look tried raised tried' looked =>
    rw [nothing.1] at tried
    rw [nothing.2] at tried'
    cases tried
    cases tried'
    cases set with
    | false => simpa using Completed.ready buffer look raised looked
    | true => simpa using Completed.cancelled buffer look raised looked

theorem showing_handedIn {post : Except ConnectError Connection → List Sign → Prop}
    (handedIn : ∀ result rest, HandedIn c.cancel d result rest → post result rest) :
    (reach timeout (.external d) >>= configure).Meets showing [] c
      (fun socket _ => post (.ok socket)) fun e _ => post (.error e) := by
  rw [Step.meets_bind, reach, Step.meets_ofAttempt, Attempt.meets_mapError, Connection.adopt,
    Attempt.meets_bind]
  refine meets_localAddress trivial (fun answer address named => ?_) fun answer cause unnamed => ?_
  · rw [Attempt.meets_pure]
    have plain : (Connection.mk d address.family .external).kind.hasTcpOptions = false := rfl
    -- Recording the address leaves the token alone, and what is left to do only adds to what shows.
    refine meets_configure_of (R := fun c' shown => c'.cancel = c.cancel ∧ ∀ r rest,
      Completed c.cancel d r rest →
        post (r.map fun _ => ⟨d, address.family, .external⟩) (shown ++ rest)) ?_ ?_ ?_
    · intro family
      refine showing_recordLocal (fun again ip recorded => ⟨rfl, fun r rest completed => ?_⟩)
        fun again cause unrecorded => ?_
      · exact handedIn _ _
          (.recorded answer again address ip r rest named family recorded completed)
      · exact handedIn _ _ (.givenBack answer again address cause named family unrecorded)
    · intro family
      refine ⟨rfl, fun r rest completed => ?_⟩
      exact handedIn _ _ (.unrecorded answer address r rest named family completed)
    · rintro c' shown ⟨same, ends⟩
      rw [← same] at ends
      exact showing_configureOptions fun r rest optioned => ends r rest (optioned.completed plain)
  · exact handedIn _ _ (.leftAlone answer cause unnamed)

/-- A number that no descriptor has is refused without asking for anything, and any other is handed
in. -/
theorem handedIn_of_runs (bar : endpoint.toList.head? = some '|') {events : List Event}
    {result : Except ConnectError Connection} {c' : Connector}
    (runs : Runs (c.connect endpoint port timeout) events (result, c')) :
    if port.toNat < 0x80000000 then HandedIn c.cancel port.toNat result (signs events)
    else (∃ e, result = .error e) ∧ signs events = [] := by
  have meets : (c.connect endpoint port timeout).Meets showing [] fun outcome shown =>
      if port.toNat < 0x80000000 then HandedIn c.cancel port.toNat outcome.1 shown
      else (∃ e, outcome.1 = .error e) ∧ shown = [] := by
    rw [meets_connect_iff, sequence, Target.ofEndpoint_of_bar bar]
    by_cases fits : port.toNat < 0x80000000
    · simp only [fits, if_true]
      exact showing_handedIn fun result rest handedIn => handedIn
    · simp only [fits, if_false]
      exact ⟨⟨_, rfl⟩, rfl⟩
  exact meets.of_shows runs.shows

end

/-! ### What becomes of the descriptor -/

/-- The descriptor is refused, and asked for nothing but its name. -/
structure LeftAlone (d : Descriptor) (result : Except ConnectError Connection)
    (shown : List Sign) : Prop where
  fails : ∃ e, result = .error e
  asked : ∀ sign ∈ shown, ∃ answer, sign = .localName d answer

/-- The descriptor is open and belongs to the connection, or there is none and it was closed once.
Nothing else was closed. -/
def TakenOver (d : Descriptor) (family : Family) (result : Except ConnectError Connection)
    (shown : List Sign) : Prop :=
  result = .ok ⟨d, family, .external⟩ ∧ closings shown = [] ∨
    (∃ e, result = .error e) ∧ closings shown = [d]

section

variable {shown : List Sign} {d : Descriptor} {token : Cancellation}

theorem Completed.takenOver {r : Except ConnectError Unit} (completed : Completed token d r shown)
    (family : Family) : TakenOver d family (r.map fun _ => ⟨d, family, .external⟩) shown := by
  cases completed with
  | refused errno buffer raised =>
    refine .inr ⟨⟨_, rfl⟩, ?_⟩
    rw [closings_append, raised.closings_eq]
    rfl
  | cancelled buffer look raised looked =>
    refine .inr ⟨⟨_, rfl⟩, ?_⟩
    rw [closings_append, closings_append, raised.closings_eq, looked.closings_eq]
    rfl
  | ready buffer look raised looked =>
    refine .inl ⟨rfl, ?_⟩
    rw [closings_append, raised.closings_eq, looked.closings_eq]
    rfl

theorem Completed.onlyReceiveBuffer {r : Except ConnectError Unit}
    (completed : Completed token d r shown) : OnlyReceiveBuffer d shown := by
  cases completed with
  | refused errno buffer raised => exact raised.onlyReceiveBuffer.append (onlyReceiveBuffer_close d)
  | cancelled buffer look raised looked =>
    have waited := raised.onlyReceiveBuffer.append looked.onlyReceiveBuffer
    exact waited.append (onlyReceiveBuffer_close d)
  | ready buffer look raised looked =>
    exact raised.onlyReceiveBuffer.append looked.onlyReceiveBuffer

theorem HandedIn.onlyReceiveBuffer {result : Except ConnectError Connection}
    (handedIn : HandedIn token d result shown) : OnlyReceiveBuffer d shown := by
  have asked := onlyReceiveBuffer_localName d
  cases handedIn with
  | leftAlone answer => exact asked answer
  | givenBack answer again => exact (asked answer).append (asked again)
  | recorded answer again _ _ _ _ _ _ _ completed =>
    exact (asked answer).append ((asked again).append completed.onlyReceiveBuffer)
  | unrecorded answer _ _ _ _ _ completed =>
    exact (asked answer).append completed.onlyReceiveBuffer

/-- A descriptor that is always named alike is not given back: it is left alone where the name is of
no supported family, and taken over where it is of one. -/
theorem HandedIn.settled {result : Except ConnectError Connection} {name : Reply KernelAddress}
    (handedIn : HandedIn token d result shown)
    (steady : ∀ answer, .localName d answer ∈ shown → answer = name) :
    match addressOf? name with
    | none => LeftAlone d result shown
    | some address => TakenOver d address.family result shown := by
  cases handedIn with
  | leftAlone answer cause unnamed =>
    obtain rfl := steady answer (by simp)
    rw [unnamed]
    exact ⟨⟨_, rfl⟩, by simp⟩
  | givenBack answer again address cause named family unrecorded =>
    obtain rfl := steady answer (by simp)
    obtain rfl := steady again (by simp)
    exact absurd ((ipOf_eq_none_iff named).mp unrecorded) family
  | recorded answer again address ip r rest named family recorded completed =>
    obtain rfl := steady answer (by simp)
    rw [named]
    exact completed.takenOver address.family
  | unrecorded answer address r rest named family completed =>
    obtain rfl := steady answer (by simp)
    rw [named]
    exact completed.takenOver address.family

end

/-- A descriptor that is handed in and always named alike is left alone where the number is too
large for one or the name is of no supported family. Otherwise it is taken over. No option is set
but its receive buffer. -/
theorem handed_in_settled {c : Connector} {endpoint : String}
    (bar : endpoint.toList.head? = some '|') {port : UInt32} {timeout : Option Duration}
    {events : List Event} {result : Except ConnectError Connection} {c' : Connector}
    (runs : Runs (c.connect endpoint port timeout) events (result, c'))
    {names : Descriptor → Reply KernelAddress}
    (steady : ∀ d answer, .localName d answer ∈ signs events → answer = names d) :
    (0x7FFFFFFF < port.toNat ∨ addressOf? (names port.toNat) = none →
      LeftAlone port.toNat result (signs events)) ∧
    (∀ address, port.toNat ≤ 0x7FFFFFFF → addressOf? (names port.toNat) = some address →
      TakenOver port.toNat address.family result (signs events)) ∧
    OnlyReceiveBuffer port.toNat (signs events) := by
  have handedIn := handedIn_of_runs bar runs
  split at handedIn
  · have settled := handedIn.settled fun answer there => steady _ answer there
    refine ⟨?_, fun address _ named => ?_, handedIn.onlyReceiveBuffer⟩
    · rintro (large | unnamed)
      · omega
      · rwa [unnamed] at settled
    · rwa [named] at settled
  · obtain ⟨fails, nothing⟩ := handedIn
    rw [nothing]
    refine ⟨fun _ => ⟨fails, by simp⟩, fun address fits _ => ?_, by simp [OnlyReceiveBuffer]⟩
    omega

section

variable {c : Connector} {endpoint : String} {port : UInt32} {timeout : Option Duration}
  {name : KernelAddress} {address : SocketAddress} {ip : IpText}

/-- How the options end of a descriptor that is handed in is how its connect ends. -/
theorem runs_handed_in (bar : endpoint.toList.head? = some '|') (fits : port.toNat < 0x80000000)
    (decoded : SocketAddress.decode? name = some address) (family : address.family ≠ .vsock)
    (addressed : ipOf (.ok name) = some ip) {events : List Event} {r : Except ConnectError Unit}
    (options : Runs ((configureOptions { c with clientAddress := some ip }
      ⟨port.toNat, address.family, .external⟩).orElseClean (Descriptor.close port.toNat)).run
      events r) :
    Runs ((sequence endpoint port timeout).run.run c)
      ([⟨.localName port.toNat, (.ok name : Reply KernelAddress)⟩] ++
        ([⟨.localName port.toNat, (.ok name : Reply KernelAddress)⟩] ++ events))
      (r.map fun _ => ⟨port.toNat, address.family, .external⟩,
        { c with clientAddress := some ip }) := by
  have adopted : Runs ((Connection.adopt port.toNat).mapError ConnectError.socket).run
      [⟨.localName port.toNat, (.ok name : Reply KernelAddress)⟩]
      (.ok ⟨port.toNat, address.family, .external⟩) := by
    have adopted : Runs (Connection.adopt port.toNat).run _ _ :=
      (runs_localAddress decoded port.toNat).map rfl
    exact adopted.map rfl
  rw [sequence, Target.ofEndpoint_of_bar bar, if_pos fits]
  exact Step.runs_bind (Step.runs_ofAttempt adopted) (runs_configure family addressed options)

end

/-- The same descriptor with the same name, where the last look at the token finds it not set and
where it finds it set: kept and closed. -/
theorem handed_in_settled_twice :
    let c : Connector := ⟨{}, ⟨3⟩, none, none⟩
    let names : Descriptor → Reply KernelAddress := fun _ => .ok ⟨[1, 0], 2⟩
    (∃ events c', Runs (c.connect "|" 5 none) events (.ok ⟨5, .unix, .external⟩, c') ∧
      (∀ d answer, .localName d answer ∈ signs events → answer = names d) ∧
      closings (signs events) = []) ∧
    ∃ events c', Runs (c.connect "|" 5 none) events (.error .cancelled, c') ∧
      (∀ d answer, .localName d answer ∈ signs events → answer = names d) ∧
      closings (signs events) = [5] := by
  intro c names
  have bar : "|".toList.head? = some '|' := by decide
  have fits : (5 : UInt32).toNat < 0x80000000 := by decide
  have decoded : SocketAddress.decode? ⟨[1, 0], 2⟩ = some (.unix ⟨[]⟩) := by decide
  have family : (SocketAddress.unix ⟨[]⟩).family ≠ .vsock := by decide
  have addressed : ipOf (.ok ⟨[1, 0], 2⟩) = some ⟨"127.0.0.1", false⟩ := by decide
  have large : Descriptor.leastReceiveBuffer ≤ (65536 : Int).toNat := by decide
  have options := fun set => runs_configureOptions
    (c := { c with clientAddress := some ⟨"127.0.0.1", false⟩ }) large ⟨5, .unix, .external⟩ rfl set
  have closed : Runs (Descriptor.close 5) [⟨.close 5, ()⟩] () := .call _ (.done _)
  let asked : List Event := [⟨.localName 5, (.ok ⟨[1, 0], 2⟩ : Reply KernelAddress)⟩,
    ⟨.localName 5, (.ok ⟨[1, 0], 2⟩ : Reply KernelAddress)⟩,
    ⟨.getOption 5 .receiveBuffer, (.ok 65536 : Reply Int)⟩]
  constructor
  · have runs : Runs (c.connect "|" 5 none) (asked ++ c.cancel.look false)
        (.ok ⟨5, .unix, .external⟩, _) :=
      (runs_handed_in bar fits decoded family addressed
        (Attempt.runs_orElseClean_ok (options false))).map rfl
    have steady : ∀ d answer, .localName d answer ∈ signs (asked ++ c.cancel.look false) →
        answer = names d := by
      simp [asked, signs, Event.sign?, Cancellation.look, names]
    obtain ⟨-, settled, -⟩ := handed_in_settled bar runs steady
    rcases settled _ (by decide) decoded with ⟨-, kept⟩ | ⟨⟨_, failed⟩, -⟩
    · exact ⟨_, _, runs, steady, kept⟩
    · cases failed
  · have runs : Runs (c.connect "|" 5 none) (asked ++ c.cancel.look true ++ [⟨.close 5, ()⟩])
        (.error .cancelled, _) :=
      (runs_handed_in bar fits decoded family addressed
        (Attempt.runs_orElseClean_error (options true) closed)).map rfl
    have steady : ∀ d answer,
        .localName d answer ∈ signs (asked ++ c.cancel.look true ++ [⟨.close 5, ()⟩]) →
          answer = names d := by
      simp [asked, signs, Event.sign?, Cancellation.look, names]
    obtain ⟨-, settled, -⟩ := handed_in_settled bar runs steady
    rcases settled _ (by decide) decoded with ⟨connected, -⟩ | ⟨-, dropped⟩
    · cases connected
    · exact ⟨_, _, runs, steady, dropped⟩

end Connector
end StreamTransport
