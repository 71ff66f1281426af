import StreamTransport.Proofs.Stream.Honesty

/-!
# Independent directions

Bytes are moved by writes and by reads. What is seen of a stream depends on one
direction only if it is the same after any two runs that differ in calls of the
other. A stream has independent directions if its answers are of this kind.

To show it, a relation is enough that the calls in one direction keep between
two states and the others leave alone.
-/

set_option autoImplicit false

namespace StreamTransport

/-- A call that moves bytes: outwards, as `W` says, or inwards up to a size. -/
inductive Transfer (W : Type) where
  | send (what : W)
  | read (size : Nat)
  deriving DecidableEq, Repr

namespace Transfer

variable {W : Type}

def direction : Transfer W → Direction
  | send _ => .write
  | read _ => .read

def request (sending : W → Sending) : Transfer W → Request
  | send what => .send (sending what)
  | read size => .read size

def requests (sending : W → Sending) (ts : List (Transfer W)) : List Request :=
  ts.map (request sending)

/-- The calls in one direction, with the others left out. -/
def only (way : Direction) (ts : List (Transfer W)) : List (Transfer W) :=
  ts.filter fun t => t.direction = way

theorem only_append (way : Direction) (ts us : List (Transfer W)) :
    only way (ts ++ us) = only way ts ++ only way us := List.filter_append ..

theorem only_cons_along {way : Direction} {t : Transfer W} (along : t.direction = way)
    (ts : List (Transfer W)) : only way (t :: ts) = t :: only way ts :=
  List.filter_cons_of_pos (by simpa using along)

theorem only_cons_across {way : Direction} {t : Transfer W} (across : t.direction ≠ way)
    (ts : List (Transfer W)) : only way (t :: ts) = only way ts :=
  List.filter_cons_of_neg (by simpa using across)

variable {S : Type} [Duplex Id S] {way : Direction}

/-- What the calls in one direction keep between two streams, and those in the other do not touch,
holds between the stream after all calls and the stream after those in the one direction. -/
theorem run_only {sending : W → Sending} {R : S → S → Prop}
    (along : ∀ {s s' : S} (t : Transfer W), t.direction = way → R s s' →
      R ((t.request sending).after s) ((t.request sending).after s'))
    (across : ∀ {s s' : S} (t : Transfer W), t.direction ≠ way → R s s' →
      R ((t.request sending).after s) s')
    (ts : List (Transfer W)) {s s' : S} (h : R s s') :
    R (Request.run s (requests sending ts)) (Request.run s' (requests sending (only way ts))) := by
  induction ts generalizing s s' with
  | nil => exact h
  | cons t ts ih =>
    by_cases same : t.direction = way
    · rw [only_cons_along same]
      exact ih (along t same h)
    · rw [only_cons_across same]
      exact ih (across t same h)

/-- A stream after writes and reads. -/
def carried (s : S) (ts : List (Transfer Bytes)) : S := Request.run s (requests .write ts)

theorem carried_concat (s : S) (ts : List (Transfer Bytes)) (t : Transfer Bytes) :
    carried s (ts ++ [t]) = (t.request .write).after (carried s ts) := by
  rw [carried, requests, List.map_append, Request.run_append]
  rfl

/-- After any writes and reads the view depends on those in one direction alone. -/
def DependsOnly (s : S) (way : Direction) {α : Type} (view : S → α) : Prop :=
  ∀ ts us : List (Transfer Bytes), only way ts = only way us →
    view (carried s ts) = view (carried s us)

/-- What a write answers depends on the writes alone, and what a read answers on the reads. -/
structure Independent (s : S) : Prop where
  writes : DependsOnly s .write fun t data => (Duplex.write (m := Id) t data).1
  reads : DependsOnly s .read fun t size => (Duplex.read (m := Id) t size).1

/-- Two states that `s` may come to by the same calls in one direction. -/
def Twins (s : S) (way : Direction) (t t' : S) : Prop :=
  ∃ ts us : List (Transfer Bytes), only way ts = only way us ∧ t = carried s ts ∧ t' = carried s us

namespace Twins

variable {s t t' after : S} {data : Bytes} {answer : Outcome (Progress Nat)}

theorem refl (s : S) (way : Direction) : Twins s way s s := ⟨[], [], rfl, rfl, rfl⟩

theorem along (h : Twins s way t t') (c : Transfer Bytes) :
    Twins s way ((c.request .write).after t) ((c.request .write).after t') := by
  obtain ⟨ts, us, same, rfl, rfl⟩ := h
  refine ⟨ts ++ [c], us ++ [c], ?_, (carried_concat s ts c).symm, (carried_concat s us c).symm⟩
  rw [only_append, only_append, same]

theorem across (h : Twins s way t t') {c : Transfer Bytes} (other : c.direction ≠ way) :
    Twins s way ((c.request .write).after t) t' := by
  obtain ⟨ts, us, same, rfl, rfl⟩ := h
  refine ⟨ts ++ [c], us, ?_, (carried_concat s ts c).symm, rfl⟩
  rw [only_append, only_cons_across other, same]
  exact List.append_nil _

theorem view_eq (h : Twins s way t t') {α : Type} {view : S → α}
    (depends : DependsOnly s way view) : view t = view t' := by
  obtain ⟨ts, us, same, rfl, rfl⟩ := h
  exact depends ts us same

theorem write (independent : Independent s) (h : Twins s .write t t')
    (answered : Duplex.write (m := Id) t data = (answer, after)) :
    ∃ after', Duplex.write (m := Id) t' data = (answer, after') ∧ Twins s .write after after' := by
  have same := congrFun (h.view_eq independent.writes) data
  have moved : Twins s .write (Duplex.write (m := Id) t data).2
      (Duplex.write (m := Id) t' data).2 := h.along (.send data)
  rw [answered] at same moved
  exact ⟨(Duplex.write (m := Id) t' data).2, Prod.ext same.symm rfl, moved⟩

theorem written (h : Twins s .read t t')
    (answered : Duplex.write (m := Id) t data = (answer, after)) : Twins s .read after t' := by
  have moved : Twins s .read (Duplex.write (m := Id) t data).2 t' :=
    h.across (c := .send data) nofun
  rwa [answered] at moved

end Twins

/-- A view depends on one direction only if it is the same wherever a relation holds that the calls
in that direction keep and the others do not touch. -/
theorem dependsOnly_of_run_only {s : S} {α : Type} {view : S → α} {R : S → S → Prop} (start : R s s)
    (along : ∀ {s s' : S} (t : Transfer Bytes), t.direction = way → R s s' →
      R ((t.request .write).after s) ((t.request .write).after s'))
    (across : ∀ {s s' : S} (t : Transfer Bytes), t.direction ≠ way → R s s' →
      R ((t.request .write).after s) s')
    (seen : ∀ {s s' : S}, R s s' → view s = view s') : DependsOnly s way view := by
  intro ts us same
  -- either run is compared with what they have in common
  have left := seen (run_only along across ts start)
  have right := seen (run_only along across us start)
  rw [same] at left
  exact left.trans right.symm

/-- What an honest stream has taken depends on its writes, if what it answers to them does. -/
theorem Independent.taken {s : S} {Sound : S → Prop} {taken : S → Bytes}
    (independent : Independent s) (honest : Honest Sound taken) (quiet : Quiet Sound taken)
    (sound : Sound s) : DependsOnly s .write taken := by
  refine dependsOnly_of_run_only
    (R := fun t t' => Twins s .write t t' ∧ Sound t ∧ Sound t' ∧ taken t = taken t')
    ⟨.refl s _, sound, sound, rfl⟩ ?_ ?_ fun h => h.2.2.2
  · rintro t t' (data | size) same ⟨twins, sound, sound', equal⟩
    · have answers := congrFun (twins.view_eq independent.writes) data
      have told := honest.truthful data sound
      have told' := honest.truthful data sound'
      rw [← equal, ← answers] at told'
      exact ⟨twins.along _, honest.sound data sound, honest.sound data sound', told.unique told'⟩
    · cases same
  · rintro t t' (data | size) other ⟨twins, sound, sound', equal⟩
    · exact absurd rfl other
    · obtain ⟨kept, silent⟩ := quiet.read size sound
      exact ⟨twins.across other, kept, sound', silent.trans equal⟩

end Transfer

namespace Scripted

open Transfer

/-- What a write does is decided apart from the entries for reads and from the records. -/
theorem write_with (s : Scripted) (reads : List ReadEntry) (pieces : List Bytes)
    (history : List StreamCall) (data : Bytes) :
    ∃ pieces' history', ({ s with reads, pieces, history } : Scripted).write data =
      ((s.write data).1,
        { (s.write data).2 with reads, pieces := pieces', history := history' }) := by
  obtain ⟨paused, script, rule, _, _, _⟩ := s
  cases paused with
  | true => exact ⟨_, _, rfl⟩
  | false => cases script <;> exact ⟨_, _, rfl⟩

theorem reads_write (s : Scripted) (data : Bytes) : (s.write data).2.reads = s.reads := by
  obtain ⟨paused, script, rule, _, _, _⟩ := s
  cases paused with
  | true => rfl
  | false => cases script <;> rfl

/-- The writes and the reads of a scripted stream follow scripts of their own. -/
theorem independent (s : Scripted) : Independent s where
  writes := by
    refine dependsOnly_of_run_only
      (R := fun t t' => ∃ reads pieces history, t' = { t with reads, pieces, history })
      ⟨_, _, _, rfl⟩ ?_ ?_ ?_
    · rintro t t' (data | size) same ⟨reads, pieces, history, rfl⟩
      · obtain ⟨pieces', history', written⟩ := write_with t reads pieces history data
        refine ⟨reads, pieces', history', ?_⟩
        exact congrArg Prod.snd written
      · cases same
    · rintro t t' (data | size) other ⟨reads, pieces, history, rfl⟩
      · exact absurd rfl other
      · exact ⟨_, _, _, rfl⟩
    · rintro t t' ⟨reads, pieces, history, rfl⟩
      refine funext fun data => ?_
      obtain ⟨_, _, written⟩ := write_with t reads pieces history data
      exact (congrArg Prod.fst written).symm
  reads := by
    refine dependsOnly_of_run_only (R := fun t t' => t.reads = t'.reads) rfl ?_ ?_ ?_
    · rintro t t' (data | size) same equal
      · cases same
      · exact congrArg (fun reads => (nextRead size reads).2) equal
    · rintro t t' (data | size) other equal
      · exact (reads_write t data).trans equal
      · exact absurd rfl other
    · intro t t' equal
      exact funext fun size => congrArg (fun reads => (nextRead size reads).1) equal

end Scripted

end StreamTransport
