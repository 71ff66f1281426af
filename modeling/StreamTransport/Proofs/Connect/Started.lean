import StreamTransport.Proofs.System.Signs

/-!
# What starting a connect shows

The parts of a connect that does not block: switching the mode, starting,
watching, and the two probes of a connect that is ready. Each shows one way in
which it succeeds, and where it fails the kernel has hindered it, refused the
connect, or could not be given the address.
-/

set_option autoImplicit false

namespace StreamTransport

open Program

/-- Whether a connect goes on by itself, or is done, after this answer. -/
def goesOn : Reply Unit → Bool
  | .ok () => true
  | .error errno => errno.isTransient

/-- Switching the mode of a descriptor: it is read, and written where it is the other. -/
inductive Switched (d : Descriptor) (nonblocking : Bool) : List Sign → Prop
  | before : Switched d nonblocking [.readMode d (.ok nonblocking)]
  | now {current : Bool} (other : current ≠ nonblocking) :
      Switched d nonblocking [.readMode d (.ok current), .writeMode d nonblocking (.ok ())]

/-- The calls around a connect work, and a wait that is not limited ends with something ready. -/
def Sign.Granted : Sign → Prop
  | .readMode _ answer => answer.isOk
  | .writeMode _ _ answer => answer.isOk
  | .watchCreate answer => answer.isOk
  | .watchAdd _ _ _ answer => answer.isOk
  | .watchRemove _ _ answer => answer.isOk
  | .getOption _ _ answer => answer.isOk
  | .poll _ millis answer => ∃ flags, answer = .ok flags ∧ (millis = none → true ∈ flags)
  | _ => True

def Hindered (shown : List Sign) : Prop := ∃ sign ∈ shown, ¬ sign.Granted

theorem hindered_singleton {sign : Sign} (hinders : ¬ sign.Granted) : Hindered [sign] :=
  ⟨sign, List.mem_singleton_self _, hinders⟩

theorem Hindered.after {shown : List Sign} (h : Hindered shown) (before : List Sign) :
    Hindered (before ++ shown) := by
  obtain ⟨sign, there, hinders⟩ := h
  exact ⟨sign, List.mem_append_right _ there, hinders⟩

theorem Hindered.before {shown : List Sign} (h : Hindered shown) (after : List Sign) :
    Hindered (shown ++ after) := by
  obtain ⟨sign, there, hinders⟩ := h
  exact ⟨sign, List.mem_append_left _ there, hinders⟩

section

variable {shown : List Sign} {d : Descriptor}

theorem showing_setNonblocking {nonblocking : Bool} {ok : Unit → List Sign → Prop}
    {err : Failure → List Sign → Prop}
    (switched : ∀ new, Switched d nonblocking new → ok () (shown ++ new))
    (hindered : ∀ cause new, Hindered new → err cause (shown ++ new)) :
    (d.setNonblocking nonblocking).Meets showing shown ok err := by
  refine Attempt.meets_bind.mpr (Attempt.meets_ofReply.mpr (showing_perform.mpr ?_))
  intro answer
  cases answer with
  | error errno =>
    exact hindered _ [.readMode d (.error errno)] (hindered_singleton Bool.false_ne_true)
  | ok current =>
    dsimp only [Attempt.Ends]
    split
    · rename_i same
      obtain rfl := same
      exact switched _ .before
    · rename_i other
      refine Attempt.meets_ofReply.mpr (showing_perform.mpr fun answer => ?_)
      rw [List.append_assoc]
      cases answer with
      | ok _ => exact switched _ (.now other)
      | error errno =>
        have fails : Hindered [.writeMode d nonblocking (.error errno)] :=
          hindered_singleton Bool.false_ne_true
        exact hindered _ _ (fails.after [.readMode d (.ok current)])

/-- A connect that is started goes on where the kernel's answer lets it, and is closed where not. -/
theorem showing_startConnect {socket : Socket} {address : SocketAddress}
    {ok : StartedConnect → List Sign → Prop} {err : Failure → List Sign → Prop}
    (started : ∀ mode raw answer, Switched socket.descriptor true mode →
      address.encode? = some raw → goesOn answer = true →
      ok ⟨socket.descriptor, socket.family⟩
        (shown ++ mode ++ [.connect socket.descriptor raw answer]))
    (refused : ∀ mode raw errno, Switched socket.descriptor true mode →
      address.encode? = some raw → goesOn (.error errno) = false →
      err (.socket (.connect errno address.text)) (shown ++ mode ++
        [.connect socket.descriptor raw (.error errno)] ++ [.close socket.descriptor]))
    (unformed : ∀ cause new, address.encode? = none → err cause (shown ++ new))
    (hindered : ∀ cause new, Hindered new → err cause (shown ++ new)) :
    (socket.startConnect address).Meets showing shown ok err := by
  rw [Socket.startConnect, Attempt.meets_orElseClean, Attempt.meets_bind]
  refine showing_setNonblocking (fun mode switched => ?_) fun cause new h => ?_
  · dsimp only
    rw [Attempt.meets_bind]
    refine showing_request (fun none => ?_) fun raw answer encodes => ?_
    · refine showing_close.mpr ?_
      rw [List.append_assoc]
      exact unformed _ _ none
    · cases answer with
      | ok _ => exact started mode raw (.ok ()) switched encodes rfl
      | error errno =>
        dsimp only
        split
        · rename_i transient
          exact started mode raw (.error errno) switched encodes transient
        · rename_i fatal
          refine showing_close.mpr ?_
          exact refused mode raw errno switched encodes (Bool.eq_false_iff.mpr fatal)
  · refine showing_close.mpr ?_
    rw [List.append_assoc]
    exact hindered cause _ (h.before _)

theorem showing_watch {interest : Interest} {ok : Watch → List Sign → Prop}
    {err : Failure → List Sign → Prop}
    (watched : ∀ watch, ok ⟨watch, d⟩
      (shown ++ [.watchCreate (.ok watch), .watchAdd watch d interest (.ok ())]))
    (hindered : ∀ cause new, Hindered new → err cause (shown ++ new)) :
    (Watch.create d interest).Meets showing shown ok err := by
  refine Attempt.meets_bind.mpr (Attempt.meets_ofReply.mpr (showing_perform.mpr ?_))
  intro answer
  cases answer with
  | error errno =>
    exact hindered _ [.watchCreate (.error errno)] (hindered_singleton Bool.false_ne_true)
  | ok watch =>
    refine Attempt.meets_bind.mpr (Attempt.meets_orElseClean.mpr ?_)
    refine Attempt.meets_ofReply.mpr (showing_perform.mpr fun answer => ?_)
    rw [List.append_assoc]
    cases answer with
    | ok _ => exact watched watch
    | error errno =>
      refine showing_close.mpr ?_
      rw [List.append_assoc]
      have fails : Hindered [.watchAdd watch d interest (.error errno)] :=
        hindered_singleton Bool.false_ne_true
      exact hindered _ _ ((fails.after [.watchCreate (.ok watch)]).before [.close watch])

variable {started : StartedConnect}

theorem showing_pendingError {ok : Option Failure → List Sign → Prop}
    {err : Failure → List Sign → Prop}
    (told : ∀ number, ok (if number = 0 then none else some (.system ⟨number⟩))
      (shown ++ [.getOption started.descriptor .pendingError (.ok number)]))
    (hindered : ∀ cause new, Hindered new → err cause (shown ++ new)) :
    started.pendingError.Meets showing shown ok err := by
  refine Attempt.meets_bind.mpr (Attempt.meets_ofReply.mpr (showing_perform.mpr ?_))
  intro answer
  cases answer with
  | error errno =>
    exact hindered _ [.getOption started.descriptor .pendingError (.error errno)]
      (hindered_singleton Bool.false_ne_true)
  | ok number => exact told number

theorem showing_checkReset {ok : Unit → List Sign → Prop} {err : Failure → List Sign → Prop}
    (reset : err (.system .connectionReset)
      (shown ++ [.peek started.descriptor (.error .connectionReset)]))
    (whole : ∀ peeked, peeked ≠ .error .connectionReset →
      ok () (shown ++ [.peek started.descriptor peeked])) :
    started.checkReset.Meets showing shown ok err := by
  refine meets_bind.mpr (showing_perform.mpr fun answer => ?_)
  cases answer with
  | ok _ => exact whole (.ok ()) nofun
  | error errno =>
    by_cases same : errno = .connectionReset
    · subst same
      exact reset
    · have other : (.error errno : Reply Unit) ≠ .error .connectionReset := by simpa using same
      change Attempt.Ends ok err (if errno = .connectionReset then _ else _) _
      rw [if_neg same]
      exact whole _ other

end

/-! ### Ways to succeed -/

theorem Descriptor.shows_setNonblocking {d : Descriptor} {nonblocking : Bool} {new : List Sign}
    (switched : Switched d nonblocking new) :
    (d.setNonblocking nonblocking).run.Shows new (.ok ()) := by
  have reads : ∀ mode, d.isNonblocking.run.Shows [.readMode d (.ok mode)] (.ok mode) := fun mode =>
    Attempt.shows_ofReply (.perform (.readMode d) (.ok mode : Reply Bool)) _
  cases switched with
  | before =>
    refine (reads nonblocking).map ?_
    dsimp only [ExceptT.bindCont]
    rw [if_pos rfl]
    exact .pure _
  | @now current other =>
    refine (reads current).bind ?_
    dsimp only [ExceptT.bindCont]
    rw [if_neg other]
    exact Attempt.shows_ofReply (.perform (.writeMode d _) (.ok () : Reply Unit)) _

theorem Socket.shows_startConnect {address : SocketAddress} {raw : Bytes} {answer : Reply Unit}
    (encodes : address.encode? = some raw) (started : goesOn answer = true) (socket : Socket)
    {mode : List Sign} (switched : Switched socket.descriptor true mode) :
    (socket.startConnect address).run.Shows (mode ++ [.connect socket.descriptor raw answer])
      (.ok ⟨socket.descriptor, socket.family⟩) := by
  refine Attempt.shows_orElseClean_ok
    (Attempt.shows_bind (Descriptor.shows_setNonblocking switched) ?_)
  refine (shows_request encodes socket answer).map ?_
  cases answer with
  | ok _ => exact .pure _
  | error errno =>
    have transient : errno.isTransient = true := started
    dsimp only [ExceptT.bindCont]
    rw [if_pos transient]
    exact .pure _

theorem Watch.shows_create (d watch : Descriptor) (interest : Interest) :
    (create d interest).run.Shows
      [.watchCreate (.ok watch), .watchAdd watch d interest (.ok ())] (.ok ⟨watch, d⟩) := by
  have created := Attempt.shows_ofReply (.perform .watchCreate (.ok watch : Reply Descriptor))
    fun errno => Failure.socket (.readiness errno "epoll_create1")
  have added := Attempt.shows_ofReply
    (.perform (.watchAdd watch d interest) (.ok () : Reply Unit)) controlFailure
  exact Attempt.shows_bind created ((Attempt.shows_orElseClean_ok added).map (.pure _))

theorem Watch.shows_stop (watch : Watch) :
    watch.stop.run.Shows [.watchRemove watch.descriptor watch.target (.ok ())] (.ok ()) :=
  Attempt.shows_ofReply
    (.perform (.watchRemove watch.descriptor watch.target) (.ok () : Reply Unit)) _

theorem StartedConnect.shows_pendingError (started : StartedConnect) :
    started.pendingError.run.Shows [.getOption started.descriptor .pendingError (.ok 0)]
      (.ok none) :=
  (Attempt.shows_ofReply (.perform (.getOption started.descriptor .pendingError)
    (.ok 0 : Reply Int)) _).map (.pure _)

theorem StartedConnect.shows_checkReset (started : StartedConnect) {peeked : Reply Unit}
    (whole : peeked ≠ .error .connectionReset) :
    started.checkReset.run.Shows [.peek started.descriptor peeked] (.ok ()) := by
  refine Program.Shows.map (.perform (.peek started.descriptor) peeked) ?_
  cases peeked with
  | ok _ => exact .pure _
  | error errno =>
    dsimp only
    rw [if_neg (by simpa using whole)]
    exact .pure _

end StreamTransport
