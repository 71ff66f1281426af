import StreamTransport.Proofs.Stream.Offers

/-!
# Streams that exaggerate

A stream may say that it took more than it was offered. The writer believes it and
drops as many bytes from its queue, or all if there are fewer. So bytes of a later chunk
may get lost that were never offered. But whatever leaves the queue leaves it at the
front, and each byte is offered at most once: what the stream takes are some of the
bytes that left, in order. It takes all of them as long as it does not exaggerate.
-/

set_option autoImplicit false

namespace StreamTransport

/-- What an answer says of the bytes taken before and after it, if its count may be too large. No
such answer is a failure. -/
def Exaggerated (before after data : Bytes) : Outcome (Progress Nat) → Prop
  | .ok (.moved n) => after = before ++ data.take n
  | .ok .wouldBlock => after = before
  | _ => False

structure Exaggerating {S : Type} [Duplex Id S] (Sound : S → Prop) (taken : S → Bytes) : Prop where
  sound {s : S} (data : Bytes) : Sound s → Sound (Duplex.write (m := Id) s data).2
  exaggerated {s : S} (data : Bytes) : Sound s →
    Exaggerated (taken s) (taken (Duplex.write (m := Id) s data).2) data
      (Duplex.write (m := Id) s data).1

namespace Scripted

/-- Neither fails nor ends the stream, but may misreport. -/
def Boastful (verdict : Verdict) : Prop :=
  verdict ≠ .endOfStream ∧ ∀ errno, verdict ≠ .fail errno

theorem apply_exaggerated (before data : Bytes) {verdict : Verdict} (h : Boastful verdict) :
    Exaggerated before (before ++ (apply data verdict).1) data (apply data verdict).2 := by
  cases verdict with
  | block => exact List.append_nil before
  | endOfStream => exact absurd rfl h.1
  | accept limit =>
    show before ++ data.take limit = before ++ data.take (data.take limit).length
    rw [List.length_take, ← List.take_eq_take_min]
  | misreport count => rfl
  | fail errno => exact absurd rfl (h.2 errno)

theorem exaggerating : Exaggerating (Within Boastful) taken where
  sound data sound :=
    have next := (nextVerdict_within ⟨⟨nofun, nofun⟩, fun _ => ⟨nofun, nofun⟩⟩ sound data).2
    ⟨next.script, next.rule⟩
  exaggerated {s} data sound := by
    have kind := (nextVerdict_within ⟨⟨nofun, nofun⟩, fun _ => ⟨nofun, nofun⟩⟩ sound data).1
    show Exaggerated s.taken (s.write data).2.taken data _
    rw [taken_write]
    exact apply_exaggerated s.taken data kind

end Scripted

namespace Buffered

variable {S Q : Type} [Fifo Q]

/-- Of what was queued and of `more` a first part has left the queue. The stream has taken some of
it in order, and all of it if no offer was said to have moved more than it had. -/
def Thins (taken : S → Bytes) (b after : Buffered S Q) (more : Bytes) (offers : List (Offer S)) :
    Prop :=
  ∃ gone sent, gone ++ Fifo.bytes after.queue = Fifo.bytes b.queue ++ more ∧
    taken after.inner = taken b.inner ++ sent ∧ sent.Sublist gone ∧
    ((∀ o ∈ offers, o.count ≤ o.data.length) → sent = gone)

variable {Sound : S → Prop} {taken : S → Bytes}

namespace Thins

variable {b next after : Buffered S Q} {more later : Bytes} {offers others : List (Offer S)}

theorem refl (b : Buffered S Q) : Thins taken b b [] offers :=
  ⟨[], [], by simp, by simp, .slnil, fun _ => rfl⟩

theorem trans (first : Thins taken b next more offers)
    (rest : Thins taken next after later others) :
    Thins taken b after (more ++ later) (offers ++ others) := by
  obtain ⟨gone, sent, whole, grown, part, all⟩ := first
  obtain ⟨gone', sent', whole', grown', part', all'⟩ := rest
  refine ⟨gone ++ gone', sent ++ sent', ?_, ?_, part.append part', fun fits => ?_⟩
  · rw [List.append_assoc, whole', ← List.append_assoc, whole, List.append_assoc]
  · rw [grown', grown, List.append_assoc]
  · rw [all fun o ho => fits o (by simp [ho]), all' fun o ho => fits o (by simp [ho])]

end Thins

/-- An answer that is believed. The chunk that was offered is the first part of the queue, so what
was taken of it is among the bytes that are dropped. -/
theorem thins_drop {b : Buffered S Q} {inner : S} {n : Nat} {answer : Outcome (Progress Nat)}
    (moved : answer = .ok (.moved n))
    (took : taken inner = taken b.inner ++ (Fifo.front b.queue).take n) :
    Thins taken b { b with inner, queue := Fifo.drop b.queue n } []
      [⟨b.inner, Fifo.front b.queue, answer⟩] := by
  refine ⟨(Fifo.bytes b.queue).take n, (Fifo.front b.queue).take n, ?_, took, ?_, fun fits => ?_⟩
  · simp
  · rw [Fifo.bytes, List.take_append]
    exact List.sublist_append_left _ _
  · have few := fits _ List.mem_cons_self
    rw [Offer.count_moved moved] at few
    exact front_take b few

variable [Duplex Id S]

theorem Drains.thins (exaggerating : Exaggerating Sound taken) {b after : Buffered S Q}
    {offers : List (Offer S)} {result : Outcome Unit} (h : Drains b offers result after)
    (sound : Sound b.inner) :
    result = .ok () ∧ Sound after.inner ∧ Thins taken b after [] offers := by
  have told {s inner : S} {data : Bytes} {answer : Outcome (Progress Nat)} (sound : Sound s)
      (answered : Duplex.write (m := Id) s data = (answer, inner)) :
      Sound inner ∧ Exaggerated (taken s) (taken inner) data answer := by
    have kept := exaggerating.sound data sound
    have said := exaggerating.exaggerated data sound
    rw [answered] at kept said
    exact ⟨kept, said⟩
  induction h with
  | idle _ => exact ⟨rfl, sound, .refl _⟩
  | accepted _ answered _ ih =>
    obtain ⟨kept, took⟩ := told sound answered
    obtain ⟨ok, kept', rest⟩ := ih kept
    exact ⟨ok, kept', (thins_drop rfl took).trans rest⟩
  | @refused b inner answer _ answered nothing =>
    obtain ⟨kept, said⟩ := told sound answered
    have same : taken inner = taken b.inner := by
      rcases nothing with rfl | rfl
      · exact said.trans (List.append_nil _)
      · exact said
    exact ⟨rfl, kept, [], [], by simp, by simp [same], .slnil, fun _ => rfl⟩
  | @failed _ _ answer _ _ answered fatal =>
    -- no answer that is a failure or an end is given
    obtain ⟨_, said⟩ := told sound answered
    rcases answer with _ | _ | _ | _
    · exact said.elim
    · cases fatal
    · cases fatal
    · exact said.elim

theorem perform_thins (exaggerating : Exaggerating Sound taken) {b : Buffered S Q}
    (sound : Sound b.inner) (c : Sending) :
    (c.perform b).1 = .ok c.receipt ∧ Sound (c.perform b).2.inner ∧
      Thins taken b (c.perform b).2 c.bytes (b.offers c) := by
  obtain ⟨result, drained, answered⟩ := drains_perform b c
  obtain ⟨rfl, kept, gone, sent, whole, rest⟩ := drained.thins exaggerating (by simpa using sound)
  rw [inner_loaded] at rest
  rw [bytes_loaded, List.append_nil] at whole
  exact ⟨answered, kept, gone, sent, whole, rest⟩

/-- The offers that a run makes to the inner stream. -/
def runOffers (b : Buffered S Q) : List Sending → List (Offer S)
  | [] => []
  | c :: cs => b.offers c ++ runOffers (c.perform b).2 cs

theorem run_thins (exaggerating : Exaggerating Sound taken) (cs : List Sending)
    {b : Buffered S Q} (sound : Sound b.inner) :
    Sending.AllSucceed b cs ∧ Sound (Sending.run b cs).inner ∧
      Thins taken b (Sending.run b cs) (Sending.submitted cs) (b.runOffers cs) := by
  induction cs generalizing b with
  | nil => exact ⟨trivial, sound, .refl b⟩
  | cons c cs ih =>
    obtain ⟨ok, kept, first⟩ := perform_thins exaggerating sound c
    obtain ⟨succeed, kept', rest⟩ := ih kept
    exact ⟨⟨ok, succeed⟩, kept', first.trans rest⟩

/-- Over a stream that may exaggerate, what is queued is always the last part of what was submitted.
Of the bytes before it the stream has taken some, in order and each at most once, and all of them if
it never said to have taken more than it was offered. Every write takes all that it is given. -/
theorem exaggeration_only_skips (exaggerating : Exaggerating Sound taken) {s : S} (sound : Sound s)
    (cs : List Sending) :
    let b : Buffered S Q := Sending.run (.new s) cs
    (∃ gone sent, gone ++ Fifo.bytes b.queue = Sending.submitted cs ∧
      taken b.inner = taken s ++ sent ∧ sent.Sublist gone ∧
      ((∀ o ∈ runOffers (new (Q := Q) s) cs, o.count ≤ o.data.length) → sent = gone)) ∧
    Sending.AllSucceed (new (Q := Q) s) cs ∧
    ∀ data, (write (m := Id) b data).1 = .ok (.moved data.length) := by
  intro b
  obtain ⟨succeed, kept, gone, sent, whole, rest⟩ := run_thins (Q := Q) exaggerating cs
    (b := .new s) sound
  have start : Fifo.bytes (new (Q := Q) s).queue = [] := Fifo.bytes_empty
  rw [start, List.nil_append] at whole
  refine ⟨⟨gone, sent, whole, rest⟩, succeed, fun data => ?_⟩
  exact Sending.perform_write_eq_ok.mp (perform_thins exaggerating kept (.write data)).1

end Buffered

/-- A queue that shows its first byte and then the others. -/
structure SingleFile where
  held : Bytes

instance : Fifo SingleFile where
  empty := ⟨[]⟩
  front q := q.held.take 1
  back q := q.held.drop 1
  push q more := ⟨q.held ++ more⟩
  drop q n := ⟨q.held.drop n⟩
  clear _ := ⟨[]⟩
  back_eq_nil q none := by
    rcases List.take_eq_nil_iff.mp none with h | h
    · cases h
    · rw [h, List.drop_nil]
  chunks_empty := rfl
  chunks_push q more := by rw [List.take_append_drop, List.take_append_drop]
  chunks_drop q n := by rw [List.take_append_drop, List.take_append_drop]
  chunks_clear _ := rfl

namespace Buffered

/-- A stream that is offered one byte and says that it took two. The second is lost. -/
theorem exaggeration_only_skips_one :
    let s := Scripted.new [.misreport 2] .all []
    let b : Buffered Scripted SingleFile := Sending.run (.new s) [.write [1, 2, 3]]
    Exaggerating (Scripted.Within Scripted.Boastful) Scripted.taken ∧
    Scripted.Within Scripted.Boastful s ∧ b.inner.taken = [1, 3] ∧
    ∃ gone, gone ++ b.queue.held = [1, 2, 3] ∧ [1, 3].Sublist gone := by
  intro s b
  have sound : Scripted.Within Scripted.Boastful s :=
    ⟨by simp [s, Scripted.new, Scripted.Boastful], by simp [s, Scripted.new]⟩
  have took : b.inner.taken = [1, 3] := by decide +kernel
  obtain ⟨⟨gone, sent, whole, grown, part, _⟩, _⟩ := exaggeration_only_skips (Q := SingleFile)
    Scripted.exaggerating sound [.write [1, 2, 3]]
  have same : b.inner.taken = sent := grown
  have held : Fifo.bytes b.queue = b.queue.held := List.take_append_drop 1 _
  refine ⟨Scripted.exaggerating, sound, took, gone, ?_, ?_⟩
  · rw [← held]
    exact whole
  · rw [← took, same]
    exact part

end Buffered
end StreamTransport
