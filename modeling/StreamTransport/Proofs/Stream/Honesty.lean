import StreamTransport.Proofs.Stream.Runs
import StreamTransport.Stream.Scripted

/-!
# Honest streams

An honest stream takes the first bytes of what it is offered and tells how
many, or takes nothing and says so. What it has taken is a view of its state,
and honesty is asked for in some sound states that no call leaves. A scripted
stream is honest unless its script has it misreport.
-/

set_option autoImplicit false

namespace StreamTransport

/-- The failure that an answer stands for. A stream at its end counts as closed. -/
def failure? : Outcome (Progress Nat) → Option Failure
  | .error cause => some cause
  | .ok .endOfStream => some (.stream .connectionClosed)
  | .ok _ => none

/-- What an answer to a write of `data` says of the bytes taken before and after it. -/
def Truthful (before after data : Bytes) : Outcome (Progress Nat) → Prop
  | .ok (.moved n) => n ≤ data.length ∧ after = before ++ data.take n
  | _ => after = before

theorem Truthful.unique {before after after' data : Bytes} {answer : Outcome (Progress Nat)}
    (told : Truthful before after data answer) (told' : Truthful before after' data answer) :
    after = after' := by
  rcases answer with _ | _ | _ | _
  · exact told.trans told'.symm
  · exact told.2.trans told'.2.symm
  · exact told.trans told'.symm
  · exact told.trans told'.symm

theorem Truthful.eq_of_refused {before after data : Bytes} {answer : Outcome (Progress Nat)}
    (told : Truthful before after data answer)
    (nothing : answer = .ok (.moved 0) ∨ answer = .ok .wouldBlock) : after = before := by
  rcases nothing with rfl | rfl
  · simpa using told.2
  · exact told

theorem Truthful.eq_of_failure {before after data : Bytes} {answer : Outcome (Progress Nat)}
    {cause : Failure} (told : Truthful before after data answer)
    (fatal : failure? answer = some cause) : after = before := by
  rcases answer with _ | _ | _ | _
  · exact told
  · cases fatal
  · cases fatal
  · exact told

section
variable {S : Type} [Duplex Id S]

structure Honest (Sound : S → Prop) (taken : S → Bytes) : Prop where
  sound {s : S} (data : Bytes) : Sound s → Sound (Duplex.write (m := Id) s data).2
  truthful {s : S} (data : Bytes) : Sound s →
    Truthful (taken s) (taken (Duplex.write (m := Id) s data).2) data
      (Duplex.write (m := Id) s data).1

/-- Bytes are taken by writes only. -/
structure Quiet (Sound : S → Prop) (taken : S → Bytes) : Prop where
  read {s : S} (size : Nat) : Sound s → Sound (Duplex.read (m := Id) s size).2 ∧
    taken (Duplex.read (m := Id) s size).2 = taken s
  wait {s : S} (direction : Direction) (timeout : Duration) : Sound s →
    Sound (Duplex.wait (m := Id) s direction timeout).2 ∧
      taken (Duplex.wait (m := Id) s direction timeout).2 = taken s
  setNonblocking {s : S} (on : Bool) : Sound s → Sound (Duplex.setNonblocking (m := Id) s on).2 ∧
    taken (Duplex.setNonblocking (m := Id) s on).2 = taken s

/-- No write fails or finds the stream at its end. -/
def Unfailing (Sound : S → Prop) : Prop :=
  ∀ (s : S) (data : Bytes), Sound s → failure? (Duplex.write (m := Id) s data).1 = none

theorem Honest.answered {Sound : S → Prop} {taken : S → Bytes} (honest : Honest Sound taken)
    {s after : S} {data : Bytes} {answer : Outcome (Progress Nat)} (sound : Sound s)
    (h : Duplex.write (m := Id) s data = (answer, after)) :
    Sound after ∧ Truthful (taken s) (taken after) data answer := by
  have kept := honest.sound data sound
  have told := honest.truthful data sound
  rw [h] at kept told
  exact ⟨kept, told⟩

end

namespace Scripted

variable {P : Verdict → Prop} {s : Scripted}

/-- Every verdict of the script is of one kind, and so is one that holds ever after. -/
structure Within (P : Verdict → Prop) (s : Scripted) : Prop where
  script : ∀ verdict ∈ s.script, P verdict
  rule : ∀ verdict, s.rule = .always verdict → P verdict

/-- A kind that leaves the other rules room: they block and accept only. -/
structure Ordinary (P : Verdict → Prop) : Prop where
  block : P .block
  accept (limit : Nat) : P (.accept limit)

theorem ruling_within (ordinary : Ordinary P) {rule : WriteRule} (data : Bytes)
    (h : ∀ verdict, rule = .always verdict → P verdict) :
    P (ruling data rule).1 ∧ ∀ verdict, (ruling data rule).2 = .always verdict → P verdict := by
  cases rule with
  | all => exact ⟨ordinary.accept _, h⟩
  | always verdict => exact ⟨h verdict rfl, h⟩
  | cycle limits position =>
    refine ⟨?_, by simp [ruling]⟩
    dsimp only [ruling]
    split
    · exact ordinary.block
    · exact ordinary.accept _
  | credit left =>
    refine ⟨?_, by simp [ruling]⟩
    dsimp only [ruling]
    split
    · exact ordinary.block
    · exact ordinary.accept _

theorem nextVerdict_within (ordinary : Ordinary P) (h : Within P s) (data : Bytes) :
    P (s.nextVerdict data).1 ∧ Within P (s.nextVerdict data).2 := by
  unfold nextVerdict
  split
  · exact ⟨ordinary.block, h⟩
  · split
    · next verdict rest script =>
      have all := h.script
      rw [script] at all
      exact ⟨all _ (by simp), fun v hv => all v (by simp [hv]), h.rule⟩
    · have next := ruling_within ordinary data h.rule
      exact ⟨next.1, h.script, next.2⟩

theorem nextVerdict_taken (s : Scripted) (data : Bytes) :
    (s.nextVerdict data).2.taken = s.taken := by
  unfold nextVerdict
  split
  · rfl
  · split <;> rfl

theorem apply_truthful (before data : Bytes) {verdict : Verdict}
    (h : ∀ count, verdict ≠ .misreport count) :
    Truthful before (before ++ (apply data verdict).1) data (apply data verdict).2 := by
  cases verdict with
  | accept limit => exact ⟨List.length_take_le' limit data, by simp [apply]⟩
  | misreport count => exact absurd rfl (h count)
  | _ => simp [apply, Truthful]

theorem taken_write (s : Scripted) (data : Bytes) :
    (s.write data).2.taken = s.taken ++ (apply data (s.nextVerdict data).1).1 := by
  rw [← nextVerdict_taken s data]
  simp [write, taken]

/-- Behind the script, and unless the stream is paused, the rule alone decides. -/
theorem write_ruled {s : Scripted} (running : s.paused = false) (unscripted : s.script = [])
    (data : Bytes) :
    s.write data =
      let (verdict, rule) := ruling data s.rule
      ((apply data verdict).2, { s with
        rule
        pieces := (apply data verdict).1 :: s.pieces
        history := .write data (apply data verdict).2 :: s.history }) := by
  simp only [write, nextVerdict, running, unscripted, Bool.false_eq_true, ↓reduceIte]

/-- A scripted stream that does not misreport is honest. -/
theorem honest (ordinary : Ordinary P) (h : ∀ count, ¬P (.misreport count)) :
    Honest (Within P) taken where
  sound data sound :=
    have next := (nextVerdict_within ordinary sound data).2
    ⟨next.script, next.rule⟩
  truthful {s} data sound := by
    change Truthful s.taken (s.write data).2.taken data _
    rw [taken_write]
    refine apply_truthful s.taken data fun count misreport => h count ?_
    exact misreport ▸ (nextVerdict_within ordinary sound data).1

theorem unfailing (ordinary : Ordinary P) (h : ¬P .endOfStream) (h' : ∀ errno, ¬P (.fail errno)) :
    Unfailing (Within P) := by
  intro s data sound
  have kind := (nextVerdict_within ordinary sound data).1
  change failure? (apply data (s.nextVerdict data).1).2 = none
  cases verdict : (s.nextVerdict data).1 with
  | endOfStream => exact absurd (verdict ▸ kind) h
  | fail errno => exact absurd (verdict ▸ kind) (h' errno)
  | _ => rfl

theorem quiet : Quiet (Within P) taken where
  read _ sound := ⟨⟨sound.script, sound.rule⟩, rfl⟩
  wait _ _ sound := ⟨⟨sound.script, sound.rule⟩, rfl⟩
  setNonblocking _ sound := ⟨sound, rfl⟩

/-- Neither fails nor misreports. -/
inductive Willing : Verdict → Prop
  | block : Willing .block
  | accept (limit : Nat) : Willing (.accept limit)

theorem willing_ordinary : Ordinary Willing := ⟨.block, .accept⟩

theorem willing_honest : Honest (Within Willing) taken := honest willing_ordinary nofun

theorem willing_unfailing : Unfailing (Within Willing) := unfailing willing_ordinary nofun nofun

/-- May fail, but does not misreport. -/
def Candid (verdict : Verdict) : Prop := ∀ count, verdict ≠ .misreport count

theorem candid_honest : Honest (Within Candid) taken :=
  honest ⟨nofun, fun _ => nofun⟩ fun count candid => candid count rfl

end Scripted
end StreamTransport
