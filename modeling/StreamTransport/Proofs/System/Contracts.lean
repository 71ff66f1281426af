import StreamTransport.Proofs.System.Runs

/-!
# Contracts between programs and the system

A contract keeps a state along a run. In every state it allows a program some
requests, and the system promises something of the answers. `Meets` says that a
program, as long as the promises are kept, makes allowed requests only and ends
as a postcondition says. It is computed from the program, one request after the
other, and is shown once to speak of all runs.

The rules for the parts of a program are equivalences, so a program is opened
by rewriting until only the parts are left that have a rule of their own.
-/

set_option autoImplicit false

namespace StreamTransport

structure Contract (σ : Type) where
  allowed : σ → Call → Prop
  promised : σ → Event → Prop
  next : σ → Event → σ

namespace Contract

variable {σ : Type}

def after (K : Contract σ) (s : σ) (events : List Event) : σ := events.foldl K.next s

/-- The system keeps its promises. -/
def Kept (K : Contract σ) (s : σ) : List Event → Prop
  | [] => True
  | e :: rest => K.promised s e ∧ K.Kept (K.next s e) rest

theorem kept_of_promised {K : Contract σ} (h : ∀ s e, K.promised s e) (s : σ)
    (events : List Event) : K.Kept s events := by
  induction events generalizing s with
  | nil => trivial
  | cons e rest ih => exact ⟨h s e, ih _⟩

/-- All requests are allowed. -/
def Obeyed (K : Contract σ) (s : σ) : List Event → Prop
  | [] => True
  | e :: rest => K.allowed s e.request ∧ K.Obeyed (K.next s e) rest

/-- Where the state does not matter, the requests are allowed one by one. -/
theorem obeyed_iff_forall {K : Contract Unit} {events : List Event} :
    K.Obeyed () events ↔ ∀ e ∈ events, K.allowed () e.request := by
  induction events with
  | nil => simp [Obeyed]
  | cons e rest ih => simp [Obeyed, ih]

theorem kept_iff_forall {K : Contract Unit} {events : List Event} :
    K.Kept () events ↔ ∀ e ∈ events, K.promised () e := by
  induction events with
  | nil => simp [Kept]
  | cons e rest ih => simp [Kept, ih]

end Contract

/-- Records all events. -/
def recording : Contract (List Event) where
  allowed _ _ := True
  promised _ _ := True
  next past e := past ++ [e]

/-- Records what the latest event that shows anything has shown. -/
def latest {β : Type} (view : Event → Option β) : Contract (Option β) where
  allowed _ _ := True
  promised _ _ := True
  next s e := (view e).or s

section

variable {β : Type} {view : Event → Option β} {s : Option β} {events : List Event}

theorem latest_unshown (h : ∀ e ∈ events, view e = none) : (latest view).after s events = s := by
  induction events generalizing s with
  | nil => rfl
  | cons e rest ih =>
    have unshown : (latest view).next s e = s := by simp [latest, h e]
    rw [Contract.after, List.foldl_cons, unshown]
    exact ih fun e he => h e (List.mem_cons_of_mem _ he)

/-- Where all that is shown is the same, and something is, it is what is recorded. -/
theorem latest_shown {b : β} (same : ∀ e ∈ events, ∀ b', view e = some b' → b' = b)
    (shown : ∃ e ∈ events, (view e).isSome) : (latest view).after s events = some b := by
  induction events generalizing s with
  | nil => simp at shown
  | cons e rest ih =>
    have rest' : ∀ e ∈ rest, ∀ b', view e = some b' → b' = b := fun e he =>
      same e (List.mem_cons_of_mem _ he)
    rw [Contract.after, List.foldl_cons]
    by_cases later : ∃ e ∈ rest, (view e).isSome
    · exact ih rest' later
    · have unshown : ∀ e ∈ rest, view e = none := by simpa using later
      obtain ⟨b', here⟩ : ∃ b', view e = some b' := by
        obtain ⟨e', he', some'⟩ := shown
        rcases List.mem_cons.mp he' with rfl | he'
        · exact Option.isSome_iff_exists.mp some'
        · simp [unshown e' he'] at some'
      have first : (latest view).next s e = some b := by
        simp [latest, here, same e List.mem_cons_self b' here]
      rw [first]
      exact latest_unshown unshown

end

variable {σ α β ε ε₂ : Type} {K : Contract σ} {s : σ}

namespace Program

def Meets (K : Contract σ) (s : σ) : Program α → (α → σ → Prop) → Prop
  | done a, post => post a s
  | call request next, post => K.allowed s request ∧ ∀ answer, K.promised s ⟨request, answer⟩ →
      Meets K (K.next s ⟨request, answer⟩) (next answer) post

variable {p : Program α}

theorem Meets.mono {post post' : α → σ → Prop} (h : p.Meets K s post)
    (weaker : ∀ a s, post a s → post' a s) : p.Meets K s post' := by
  induction p generalizing s with
  | done a => exact weaker a s h
  | call request next ih => exact ⟨h.1, fun answer kept => ih answer (h.2 answer kept)⟩

theorem meets_congr {post post' : α → σ → Prop} (same : ∀ a s, post a s ↔ post' a s) :
    p.Meets K s post ↔ p.Meets K s post' := by
  constructor
  · intro h
    exact h.mono fun a s => (same a s).mp
  · intro h
    exact h.mono fun a s => (same a s).mpr

/-- Where all requests are allowed, every program meets the contract. -/
theorem meets_of_allowed (h : ∀ s request, K.allowed s request) :
    p.Meets K s fun _ _ => True := by
  induction p generalizing s with
  | done a => trivial
  | call request next ih => exact ⟨h s request, fun answer _ => ih answer⟩

@[simp] theorem meets_pure {a : α} {post : α → σ → Prop} :
    (pure a : Program α).Meets K s post ↔ post a s := Iff.rfl

@[simp] theorem meets_bind {f : α → Program β} {post : β → σ → Prop} :
    (p >>= f).Meets K s post ↔ p.Meets K s fun a s => (f a).Meets K s post := by
  induction p generalizing s with
  | done a => rfl
  | call request next ih =>
    exact and_congr_right fun _ => forall_congr' fun answer => imp_congr_right fun _ => ih answer

/-- What a program meets holds of each of its runs in which the promises are kept. -/
theorem Meets.of_runs {post : α → σ → Prop} (h : p.Meets K s post) {events : List Event} {a : α}
    (run : Runs p events a) (kept : K.Kept s events) :
    K.Obeyed s events ∧ post a (K.after s events) := by
  induction run generalizing s with
  | done a => exact ⟨trivial, h⟩
  | call answer _ ih =>
    obtain ⟨obeyed, done⟩ := ih (h.2 answer kept.1) kept.2
    exact ⟨⟨h.1, obeyed⟩, done⟩

/-- Where nothing is promised, it holds of every run. -/
theorem Meets.of_every_run {post : α → σ → Prop} (h : p.Meets K s post)
    (promised : ∀ s e, K.promised s e) {events : List Event} {a : α} (run : Runs p events a) :
    K.Obeyed s events ∧ post a (K.after s events) :=
  h.of_runs run (K.kept_of_promised promised s events)

/-- What is met where all is recorded is what holds of every run. -/
theorem meets_recording_iff {past : List Event} {post : α → List Event → Prop} :
    p.Meets recording past post ↔ ∀ events a, Runs p events a → post a (past ++ events) := by
  induction p generalizing past with
  | done a =>
    constructor
    · rintro h events a' ⟨⟩
      rw [List.append_nil]
      exact h
    · intro h
      have ended := h [] a (.done a)
      rwa [List.append_nil] at ended
  | call request next ih =>
    constructor
    · rintro h events a (_ | ⟨answer, runs⟩)
      have rest := (ih answer).mp (h.2 answer trivial) _ a runs
      simpa [recording] using rest
    · intro h
      refine ⟨trivial, fun answer _ => (ih answer).mpr fun events a runs => ?_⟩
      simpa [recording] using h _ a (.call answer runs)

end Program

namespace Attempt

/-- One postcondition for success and one for failure. -/
def Ends (ok : α → σ → Prop) (err : ε → σ → Prop) : Except ε α → σ → Prop
  | .ok a => ok a
  | .error e => err e

def Meets (K : Contract σ) (s : σ) (p : Attempt ε α) (ok : α → σ → Prop) (err : ε → σ → Prop) :
    Prop :=
  Program.Meets K s p.run (Ends ok err)

variable {p : Attempt ε α} {ok : α → σ → Prop} {err : ε → σ → Prop}

@[simp] theorem ends_ok {a : α} : Ends ok err (.ok a) s ↔ ok a s := Iff.rfl

@[simp] theorem ends_error {e : ε} : Ends ok err (.error e) s ↔ err e s := Iff.rfl

theorem Meets.mono {ok' : α → σ → Prop} {err' : ε → σ → Prop} (h : p.Meets K s ok err)
    (success : ∀ a s, ok a s → ok' a s) (failure : ∀ e s, err e s → err' e s) :
    p.Meets K s ok' err' := by
  refine Program.Meets.mono h fun result s => ?_
  cases result with
  | ok a => exact success a s
  | error e => exact failure e s

/-- Where all requests are allowed and every end will do, every attempt meets the contract. -/
theorem meets_of_allowed (h : ∀ s request, K.allowed s request) (success : ∀ a s, ok a s)
    (failure : ∀ e s, err e s) : p.Meets K s ok err := by
  refine (Program.meets_of_allowed h).mono fun result s _ => ?_
  cases result with
  | ok a => exact success a s
  | error e => exact failure e s

theorem meets_run_iff {post : Except ε α → σ → Prop} :
    Program.Meets K s p.run post ↔
      p.Meets K s (fun a => post (.ok a)) fun e => post (.error e) := by
  refine Program.meets_congr fun result s => ?_
  cases result with
  | ok a => rfl
  | error e => rfl

@[simp] theorem meets_pure {a : α} : (pure a : Attempt ε α).Meets K s ok err ↔ ok a s := Iff.rfl

@[simp] theorem meets_throw {e : ε} : (throw e : Attempt ε α).Meets K s ok err ↔ err e s := Iff.rfl

@[simp] theorem meets_bind {f : α → Attempt ε β} {ok : β → σ → Prop} :
    (p >>= f).Meets K s ok err ↔ p.Meets K s (fun a s => (f a).Meets K s ok err) err := by
  change Program.Meets K s (p.run >>= ExceptT.bindCont f) _ ↔ _
  rw [Program.meets_bind, meets_run_iff]
  rfl

@[simp] theorem meets_always {p : Program α} :
    (always p : Attempt ε α).Meets K s ok err ↔ p.Meets K s ok := by
  change Program.Meets K s (p >>= fun a => pure (Except.ok a)) _ ↔ _
  rw [Program.meets_bind]
  rfl

@[simp] theorem meets_ofReply {meaning : Errno → ε} {p : Program (Reply α)} :
    (ofReply meaning p).Meets K s ok err ↔
      p.Meets K s (Ends ok fun errno => err (meaning errno)) := by
  change Program.Meets K s (p >>= fun answer => pure (answer.mapError meaning)) _ ↔ _
  rw [Program.meets_bind]
  refine Program.meets_congr fun answer s => ?_
  cases answer with
  | ok a => rfl
  | error errno => rfl

@[simp] theorem meets_mapError {f : ε → ε₂} {err : ε₂ → σ → Prop} :
    (p.mapError f).Meets K s ok err ↔ p.Meets K s ok fun e => err (f e) := by
  change Program.Meets K s (p.run >>= fun result => pure (result.mapError f)) _ ↔ _
  rw [Program.meets_bind, meets_run_iff]
  rfl

@[simp] theorem meets_orElseClean {clean : Program Unit} :
    (p.orElseClean clean).Meets K s ok err ↔
      p.Meets K s ok fun e s => clean.Meets K s fun _ => err e := by
  change Program.Meets K s (p.run >>= fun result => _) _ ↔ _
  simp only [Program.meets_bind, meets_run_iff, Program.meets_pure, ends_ok, ends_error]

end Attempt
end StreamTransport
