import StreamTransport.Proofs.System.Signs

/-!
# The order of a race

A race first makes an entry for every target, in the order of the list, and
only then connects. Its participants lose their turns one after the other until
nobody is left, the token is found set, or one connects. Each that loses is
closed in its turn, and all that are left are closed at the end.
-/

set_option autoImplicit false

namespace StreamTransport

/-- The candidate that takes part in a race: the first, or in its stead the first of version 4
where it is of version 6. -/
def Resolution.standIn (r : Resolution) : Option Candidate :=
  match r.candidates with
  | [] => none
  | first :: rest =>
    if first.family = .inet6 then some ((rest.find? fun c => c.family = .inet).getD first)
    else some first

theorem Resolution.raceIndex_candidate (r : Resolution) :
    (r.raceIndex.bind fun i => r.candidates[i]?) = r.standIn := by
  unfold raceIndex standIn
  cases r.candidates with
  | nil => rfl
  | cons first rest =>
    by_cases sixth : first.family = .inet6
    · simp only [sixth, if_true, Option.bind_some]
      cases found : firstOf .inet rest with
      | none =>
        have others : rest.find? (fun c => c.family = .inet) = none :=
          List.find?_eq_none.mpr (by simpa using List.findIdx?_eq_none_iff.mp found)
        simp [others]
      | some k =>
        obtain ⟨bound, fits, before⟩ := List.findIdx?_eq_some_iff_getElem.mp found
        have fourth : rest.find? (fun c => c.family = .inet) = some rest[k] :=
          List.find?_eq_some_iff_getElem.mpr ⟨fits, k, bound, rfl, by simpa using before⟩
        simp [fourth]
    · simp [sixth]

namespace Race

open Program

/-- What becomes of a target: nothing, a candidate without a socket, or a participant. -/
inductive Entry where
  | unresolved (target : Alternate) (cause : Failure)
  | empty (target : Alternate)
  | refused (target : Alternate) (r : Resolution) (c : Candidate) (choice : r.standIn = some c)
      (errno : Errno)
  | entered (target : Alternate) (r : Resolution) (c : Candidate) (choice : r.standIn = some c)
      (d : Descriptor)

namespace Entry

def target : Entry → Alternate
  | unresolved target _ => target
  | empty target => target
  | refused target _ _ _ _ => target
  | entered target _ _ _ _ => target

def participant? : Entry → Option Participant
  | entered target _ c _ d => some ⟨target.host, ⟨d, c.family⟩, c⟩
  | _ => none

/-- The target is asked for under its own port, or else under the port of the race. -/
def resolved (port : UInt16) (target : Alternate) (answer : Outcome Resolution) : Sign :=
  .resolve target.host (some (target.port.getD port)) answer

def signs (port : UInt16) : Entry → List Sign
  | unresolved target cause => [resolved port target (.error cause)]
  | empty target => [resolved port target (.ok ⟨[]⟩)]
  | refused target r c _ errno => [resolved port target (.ok r), c.tried (.error errno)]
  | entered target r c _ d => [resolved port target (.ok r), c.tried (.ok d)]

end Entry

/-- The look before a turn, where there is a token to look at. -/
inductive Looked : Option Cancellation → Bool → List Sign → Prop
  | nowhere : Looked none false []
  | there {token : Cancellation} {set : Bool} {look : Sign} (looked : token.Looked set look) :
      Looked (some token) set [look]

def closing (p : Participant) : Sign := .close p.socket.descriptor

def connecting (p : Participant) (raw : Bytes) (answer : Reply Unit) : Sign :=
  .connect p.socket.descriptor raw answer

/-- Participants that lose their turns, one after the other. The token is not set when one has its
turn, and its socket is closed when that is over. -/
inductive Losses (cancel : Option Cancellation) : List Participant → List Sign → Prop
  | none : Losses cancel [] []
  | unformed {p : Participant} {looks : List Sign} {others : List Participant} {later : List Sign}
      (look : Looked cancel false looks) (unformed : p.candidate.address.encode? = none)
      (rest : Losses cancel others later) :
      Losses cancel (p :: others) (looks ++ [closing p] ++ later)
  | refused {p : Participant} {looks : List Sign} {others : List Participant} {later : List Sign}
      {raw : Bytes} (look : Looked cancel false looks)
      (encodes : p.candidate.address.encode? = some raw) (errno : Errno)
      (rest : Losses cancel others later) :
      Losses cancel (p :: others) (looks ++ [connecting p raw (.error errno), closing p] ++ later)

/-- How a race ends with the participants that are left. -/
inductive Finish (cancel : Option Cancellation) :
    List Participant → List Sign → Except ConnectError Connection → Prop
  | nobody : Finish cancel [] [] (.error .noCandidate)
  | cancelled {p : Participant} {rest : List Participant} {looks : List Sign}
      (look : Looked cancel true looks) :
      Finish cancel (p :: rest) (looks ++ (p :: rest).map closing) (.error .cancelled)
  | won {p : Participant} {rest : List Participant} {looks : List Sign} {raw : Bytes}
      (look : Looked cancel false looks) (encodes : p.candidate.address.encode? = some raw) :
      Finish cancel (p :: rest) (looks ++ [connecting p raw (.ok ())] ++ rest.map closing)
        (.ok ⟨p.socket.descriptor, p.socket.family, .ofFamily p.candidate.address.family⟩)

/-- How the participants have their turns. -/
structure Contest (cancel : Option Cancellation) (participants : List Participant)
    (shown : List Sign) (result : Except ConnectError Connection) where
  losers : List Participant
  losses : List Sign
  rest : List Participant
  finish : List Sign
  split : participants = losers ++ rest
  lost : Losses cancel losers losses
  finished : Finish cancel rest finish result
  shows : shown = losses ++ finish

/-- How a race goes. -/
structure Course (targets : List Alternate) (port : UInt16) (cancel : Option Cancellation)
    (shown : List Sign) (result : Except ConnectError Connection) where
  entries : List Entry
  turns : List Sign
  inOrder : entries.map Entry.target = targets
  contest : Contest cancel (entries.filterMap Entry.participant?) turns result
  shows : shown = entries.flatMap (Entry.signs port) ++ turns

section

variable {shown : List Sign}

theorem showing_enter (target : Alternate) (port : UInt16) :
    (enter target port).Meets showing shown fun p s => ∃ entry : Entry,
      entry.target = target ∧ entry.participant? = p ∧ s = shown ++ entry.signs port := by
  unfold enter
  refine meets_bind.mpr (showing_perform.mpr fun answer => ?_)
  change Meets showing (shown ++ [Entry.resolved port target answer]) _ _
  cases answer with
  | error cause =>
    exact meets_bind.mpr (showing_note.mpr ⟨.unresolved target cause, rfl, rfl, rfl⟩)
  | ok r =>
    dsimp only
    rw [r.raceIndex_candidate]
    cases choice : r.standIn with
    | none =>
      obtain rfl : r = ⟨[]⟩ := by
        rcases r with ⟨_ | ⟨first, rest⟩⟩
        · rfl
        · simp only [Resolution.standIn] at choice
          split at choice <;> contradiction
      exact ⟨.empty target, rfl, rfl, rfl⟩
    | some c =>
      refine meets_bind.mpr (Attempt.meets_run_iff.mpr ?_)
      refine showing_ofCandidate (fun d => ?_) fun errno => ?_
      · exact ⟨.entered target r c choice d, rfl, rfl, by simp [Entry.signs]⟩
      · refine meets_bind.mpr (showing_note.mpr ?_)
        exact ⟨.refused target r c choice errno, rfl, rfl, by simp [Entry.signs]⟩

theorem showing_line (port : UInt16) (targets : List Alternate) :
    (line port targets).Meets showing shown fun participants s => ∃ entries : List Entry,
      entries.map Entry.target = targets ∧
      entries.filterMap Entry.participant? = participants ∧
      s = shown ++ entries.flatMap (Entry.signs port) := by
  induction targets generalizing shown with
  | nil => exact ⟨[], rfl, rfl, by simp⟩
  | cons target rest ih =>
    refine meets_bind.mpr ((showing_enter target port).mono ?_)
    rintro _ _ ⟨entry, rfl, rfl, rfl⟩
    refine meets_bind.mpr (ih.mono ?_)
    rintro _ _ ⟨entries, rfl, rfl, rfl⟩
    refine ⟨entry :: entries, rfl, ?_, by simp⟩
    cases participant : entry.participant? <;> simp [participant]

theorem showing_closeAll {participants : List Participant} {post : PUnit → List Sign → Prop} :
    (closeAll participants).Meets showing shown post ↔
      post ⟨⟩ (shown ++ participants.map closing) := by
  induction participants generalizing shown with
  | nil => simp [closeAll]
  | cons p rest ih =>
    have closeRest : closeAll (p :: rest) = p.socket.descriptor.close >>= fun _ => closeAll rest :=
      List.forM_cons
    rw [closeRest, meets_bind, showing_close, ih, List.append_assoc]
    rfl

theorem showing_cancelRequested {cancel : Option Cancellation} {post : Bool → List Sign → Prop}
    (h : ∀ set looks, Looked cancel set looks → post set (shown ++ looks)) :
    (cancelRequested cancel).Meets showing shown post := by
  cases cancel with
  | none =>
    have nowhere := h false [] .nowhere
    rwa [List.append_nil] at nowhere
  | some token => exact showing_isRequested fun set look looked => h set [look] (.there looked)

/-- A connect that blocks keeps the socket where the kernel connects it, and closes it otherwise. -/
theorem showing_connect {socket : Socket} {address : SocketAddress} {kind : ConnectionKind}
    {ok : Connection → List Sign → Prop} {err : Failure → List Sign → Prop}
    (connected : ∀ raw, address.encode? = some raw →
      ok ⟨socket.descriptor, socket.family, kind⟩
        (shown ++ [.connect socket.descriptor raw (.ok ())]))
    (refused : ∀ raw errno cause, address.encode? = some raw → err cause
      (shown ++ [.connect socket.descriptor raw (.error errno), .close socket.descriptor]))
    (unformed : ∀ cause, address.encode? = none →
      err cause (shown ++ [.close socket.descriptor])) :
    (socket.connect address kind).Meets showing shown ok err := by
  rw [Socket.connect, Attempt.meets_orElseClean, Attempt.meets_bind]
  refine showing_request (fun none => ?_) fun raw answer encodes => ?_
  · exact showing_close.mpr (unformed _ none)
  · cases answer with
    | ok _ => exact connected raw encodes
    | error errno =>
      refine showing_close.mpr ?_
      rw [List.append_assoc]
      exact refused raw errno _ encodes

theorem showing_connectInTurn (cancel : Option Cancellation) (participants : List Participant) :
    Program.Meets showing shown (connectInTurn cancel participants).run fun result s =>
      ∃ turns, Nonempty (Contest cancel participants turns result) ∧ s = shown ++ turns := by
  induction participants generalizing shown with
  | nil => exact ⟨[], ⟨⟨[], [], [], [], rfl, .none, .nobody, rfl⟩⟩, by simp⟩
  | cons p rest ih =>
    -- whoever loses leaves the race to the rest
    have goesOn : ∀ turn, (∀ {others later}, Losses cancel others later →
        Losses cancel (p :: others) (turn ++ later)) →
        Program.Meets showing (shown ++ turn) (connectInTurn cancel rest).run fun result s =>
          ∃ turns, Nonempty (Contest cancel (p :: rest) turns result) ∧ s = shown ++ turns := by
      intro turn loses
      refine ih.mono ?_
      rintro result _ ⟨turns, ⟨losers, losses, left, finish, split, lost, finished, rfl⟩, rfl⟩
      exact ⟨_, ⟨⟨p :: losers, turn ++ losses, left, finish, congrArg (p :: ·) split, loses lost,
        finished, rfl⟩⟩, by simp⟩
    refine Attempt.meets_run_iff.mpr ?_
    simp only [connectInTurn, Attempt.meets_bind, Attempt.meets_always]
    refine showing_cancelRequested fun set looks look => ?_
    cases set with
    | true =>
      simp only [if_true, Attempt.meets_bind, Attempt.meets_always]
      refine showing_closeAll.mpr ?_
      exact ⟨_, ⟨⟨[], [], p :: rest, _, rfl, .none, .cancelled look, rfl⟩⟩, by simp⟩
    | false =>
      simp only [Bool.false_eq_true, if_false, Attempt.meets_bind, Attempt.meets_always,
        Attempt.meets_run_iff]
      refine showing_connect (fun raw encodes => ?_) (fun raw errno cause encodes => ?_)
        fun cause unformed => ?_
      · refine showing_note.mpr (showing_closeAll.mpr ?_)
        exact ⟨_, ⟨⟨[], [], p :: rest, _, rfl, .none, .won look encodes, rfl⟩⟩,
          by simp [connecting]⟩
      · refine showing_note.mpr ?_
        rw [List.append_assoc]
        exact Attempt.meets_run_iff.mp (goesOn _ (.refused look encodes errno))
      · refine showing_note.mpr ?_
        rw [List.append_assoc]
        exact Attempt.meets_run_iff.mp (goesOn _ (.unformed look unformed))

end

/-- Every race has its course: all targets are looked up in order before the first connect, and
the participants have their turns in the same order until one connects or the token is found
set. -/
theorem runs_in_order {targets : List Alternate} {port : UInt16} {cancel : Option Cancellation}
    {events : List Event} {result : Except ConnectError Connection}
    (runs : Runs (Race.run targets port cancel).run events result) :
    Nonempty (Course targets port cancel (StreamTransport.signs events) result) := by
  have goes : Program.Meets showing [] (Race.run targets port cancel).run fun result s =>
      Nonempty (Course targets port cancel s result) := by
    refine Attempt.meets_run_iff.mpr ?_
    simp only [Race.run, Attempt.meets_bind, Attempt.meets_always]
    refine (showing_line port targets).mono ?_
    rintro participants _ ⟨entries, inOrder, rfl, rfl⟩
    have turns : Program.Meets showing ([] ++ entries.flatMap (Entry.signs port))
        (connectInTurn cancel (entries.filterMap Entry.participant?)).run fun result s =>
          Nonempty (Course targets port cancel s result) := by
      refine (showing_connectInTurn cancel _).mono ?_
      rintro result _ ⟨turns, ⟨contest⟩, rfl⟩
      exact ⟨⟨entries, turns, inOrder, contest, rfl⟩⟩
    exact showing_note.mpr (Attempt.meets_run_iff.mp turns)
  exact goes.of_shows runs.shows

/-- The first target does not resolve, and the second connects in version 4. -/
theorem runs_in_order_second :
    let targets : List Alternate := [⟨"a", none⟩, ⟨"b", some 80⟩]
    let connected : Connection := ⟨4, .inet, .tcp⟩
    ∃ events, Runs (Race.run targets 3389 (some ⟨9⟩)).run events (.ok connected) ∧
      Nonempty (Course targets 3389 (some ⟨9⟩) (StreamTransport.signs events) (.ok connected)) := by
  intro targets connected
  let c : Candidate := .stream (.inet ⟨.loopback, 80⟩)
  let r : Resolution := ⟨[.stream (.inet6 ⟨.unspecified, 80, 0, 0⟩), c]⟩
  let p : Participant := ⟨"b", ⟨4, .inet⟩, c⟩
  obtain ⟨raw, encodes⟩ := Option.isSome_iff_exists.mp
    (by decide +kernel : (SocketAddress.encode? (.inet ⟨.loopback, 80⟩)).isSome)
  have first : (enter ⟨"a", none⟩ 3389).Shows _ none :=
    .bind (.perform (.resolve "a" (some 3389)) (.error (.system ⟨2⟩) : Outcome Resolution))
      (.map (.note _) (.pure _))
  have second : (enter ⟨"b", some 80⟩ 3389).Shows _ (some p) :=
    .bind (.perform (.resolve "b" (some 80)) (.ok r : Outcome Resolution))
      (.map (Socket.shows_ofCandidate c (.ok 4)) (.pure _))
  have entries : (line 3389 targets).Shows _ [p] :=
    first.bind (.map (second.bind (.map (.pure []) (.pure _))) (.pure _))
  have looked := Cancellation.shows_isRequested ⟨9⟩ false
  have connects : (p.socket.connect c.address .tcp).run.Shows _ (.ok connected) :=
    Attempt.shows_orElseClean_ok ((Socket.shows_request encodes p.socket (.ok ())).map (.pure _))
  have turn : (connectInTurn (some ⟨9⟩) [p]).run.Shows _ (.ok connected) :=
    Attempt.shows_bind (Attempt.shows_always looked)
      (Attempt.shows_bind (Attempt.shows_always connects)
        (Attempt.shows_bind (Attempt.shows_always (.note _))
          (Attempt.shows_bind (Attempt.shows_always (.pure _)) (.pure _))))
  have whole : (Race.run targets 3389 (some ⟨9⟩)).run.Shows _ (.ok connected) :=
    Attempt.shows_bind (Attempt.shows_always entries)
      (Attempt.shows_bind (Attempt.shows_always (.note _)) turn)
  obtain ⟨events, runs, _⟩ := whole
  exact ⟨events, runs, runs_in_order runs⟩

end Race
end StreamTransport
