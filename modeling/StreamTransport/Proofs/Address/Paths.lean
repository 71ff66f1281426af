import Mathlib.Data.List.TakeWhile
import StreamTransport.Proofs.Connect.Requests
import StreamTransport.Proofs.Connect.Runs

/-!
# Paths in the kernel's form

A path is stored byte by byte and filled up with zeros. It is read back up to
its first zero byte. So what the kernel is asked to connect to is the path that
an endpoint spells if there is no zero byte in it, and else its part before the
first one.
-/

set_option autoImplicit false

namespace StreamTransport

open Octets Program

namespace UnixAddress

/-- What is read of a path: a zero byte ends it. -/
def untilZero (a : UnixAddress) : UnixAddress := ⟨a.path.takeWhile (· != 0)⟩

/-- The same but for zero bytes at the end. -/
def SameButZeros (a b : UnixAddress) : Prop :=
  ∃ m n, a.path ++ List.replicate m 0 = b.path ++ List.replicate n 0

theorem untilZero_eq_iff {a : UnixAddress} : a.untilZero = a ↔ (0 : UInt8) ∉ a.path := by
  have whole : a.untilZero = a ↔ a.path.takeWhile (· != 0) = a.path := by
    rcases a with ⟨path⟩
    simp [untilZero]
  rw [whole, List.takeWhile_eq_self_iff]
  constructor
  · intro nonzero zero
    simpa using nonzero 0 zero
  · intro nonzero b hb
    exact bne_iff_ne.mpr fun zero => nonzero (zero ▸ hb)

/-- The path with zeros behind it, as it is stored. -/
def filled (a : UnixAddress) : Bytes :=
  a.path ++ List.replicate (SocketAddress.pathRoom - a.path.length) 0

theorem length_filled {a : UnixAddress} (short : a.path.length < SocketAddress.pathRoom) :
    a.filled.length = SocketAddress.pathRoom := by
  rw [filled, List.length_append, List.length_replicate]
  omega

/-- The zeros do not show. -/
theorem takeWhile_filled (a : UnixAddress) : a.filled.takeWhile (· != 0) = a.untilZero.path := by
  rw [filled, untilZero, List.takeWhile_append]
  split
  · rename_i whole
    rw [List.takeWhile_replicate, (List.takeWhile_prefix _).eq_of_length whole]
    simp
  · rfl

theorem filled_eq_filled_iff {a b : UnixAddress} (short : a.path.length < SocketAddress.pathRoom)
    (short' : b.path.length < SocketAddress.pathRoom) : a.filled = b.filled ↔ a.SameButZeros b := by
  constructor
  · exact fun same => ⟨_, _, same⟩
  · rintro ⟨m, n, same⟩
    have cut : ∀ (c : UnixAddress) k, c.path.length < SocketAddress.pathRoom →
        (c.path ++ List.replicate k 0 ++ List.replicate SocketAddress.pathRoom 0).take
          SocketAddress.pathRoom = c.filled := by
      intro c k short
      rw [List.append_assoc, List.replicate_append_replicate, List.take_append,
        List.take_of_length_le (Nat.le_of_lt short), List.take_replicate, filled]
      congr 2
      omega
    rw [← cut a m short, ← cut b n short', same]

end UnixAddress

namespace SocketAddress

variable {a b : UnixAddress} {raw raw' : Bytes}

theorem encode?_unix_eq_some_iff :
    encode? (.unix a) = some raw ↔
      (a.path ≠ [] ∧ a.path.length < pathRoom) ∧ familyBytes .unix ++ a.filled = raw := by
  change encodeUnix? a = some raw ↔ _
  unfold encodeUnix?
  split
  · rename_i refused
    simp only [reduceCtorEq, false_iff, not_and]
    rintro ⟨nonempty, short⟩
    exact absurd refused (not_or.mpr ⟨nonempty, Nat.not_le.mpr short⟩)
  · rename_i fits
    rw [not_or, Nat.not_le] at fits
    simp [fits, UnixAddress.filled]

/-- A path that is stored is read back up to its first zero byte. -/
theorem decode?_of_encode?_unix (h : encode? (.unix a) = some raw) :
    decode? ⟨raw, raw.length⟩ = some (.unix a.untilZero) := by
  obtain ⟨⟨_, short⟩, rfl⟩ := encode?_unix_eq_some_iff.mp h
  have filled := UnixAddress.length_filled short
  have room : (familyBytes .unix ++ a.filled).length = 2 + pathRoom := by
    rw [List.length_append, filled, familyBytes, length_littleEndian]
  have number : window (familyBytes .unix ++ a.filled) 0 2 = familyBytes .unix := by
    rw [window_eq_of_length_le _ _ _ (by omega)]
    rfl
  have path : window (familyBytes .unix ++ a.filled) 2 (min (2 + pathRoom - 2) pathRoom) =
      a.filled := by
    rw [window_eq_of_length_le _ _ _ (by omega)]
    change a.filled.take (min (2 + pathRoom - 2) pathRoom) = a.filled
    exact List.take_of_length_le (by omega)
  have unix : Family.ofNumber? (ofLittleEndian (familyBytes .unix) : Nat) = some .unix := by decide
  have reported : ¬ 2 + pathRoom < 2 := by omega
  simp only [decode?, room, number, unix, formLength, decodeUnix, path, reported, if_false,
    a.takeWhile_filled]

theorem decode?_eq_unix_iff (h : encode? (.unix a) = some raw) :
    decode? ⟨raw, raw.length⟩ = some (.unix a) ↔ (0 : UInt8) ∉ a.path := by
  rw [decode?_of_encode?_unix h, ← UnixAddress.untilZero_eq_iff]
  simp

/-- Two paths share their form where they differ in zero bytes at the end only. -/
theorem encode?_unix_eq_iff (h : encode? (.unix a) = some raw)
    (h' : encode? (.unix b) = some raw') : raw = raw' ↔ a.SameButZeros b := by
  obtain ⟨⟨_, short⟩, rfl⟩ := encode?_unix_eq_some_iff.mp h
  obtain ⟨⟨_, short'⟩, rfl⟩ := encode?_unix_eq_some_iff.mp h'
  rw [List.append_cancel_left_eq, UnixAddress.filled_eq_filled_iff short short']

end SocketAddress

theorem Target.path_of_unix {endpoint : String} {port : UInt32} {a : UnixAddress}
    (h : ofEndpoint endpoint port = .ok (.unix a)) : a = ⟨Text.utf8 endpoint⟩ := by
  unfold ofEndpoint at h
  grind

namespace UnixAddress

open SocketAddress

/-- What a stored path stands for. -/
structure ReadBack (a : UnixAddress) (raw : Bytes) : Prop where
  read : decode? ⟨raw, raw.length⟩ = some (.unix a.untilZero)
  whole : decode? ⟨raw, raw.length⟩ = some (.unix a) ↔ (0 : UInt8) ∉ a.path
  shared : ∀ b raw', encode? (.unix b) = some raw' → (raw = raw' ↔ a.SameButZeros b)

theorem readBack_of_encode? {a : UnixAddress} {raw : Bytes} (h : encode? (.unix a) = some raw) :
    a.ReadBack raw where
  read := decode?_of_encode?_unix h
  whole := decode?_eq_unix_iff h
  shared := fun _ _ h' => encode?_unix_eq_iff h h'

/-- A request that connects, connects to the path. -/
def spells (a : UnixAddress) (request : Call) : Prop :=
  ∀ d raw, request = .connect d raw → encode? (.unix a) = some raw

/-- Everything that is connected to is the path, as far as its first zero byte. -/
def ConnectsTo (a : UnixAddress) (events : List Event) : Prop :=
  ∀ e ∈ events, ∀ d raw, e.request = .connect d raw →
    encode? (.unix a) = some raw ∧ decode? ⟨raw, raw.length⟩ = some (.unix a.untilZero)

theorem connectsTo_of_spells {a : UnixAddress} {events : List Event}
    (h : ∀ e ∈ events, a.spells e.request) : a.ConnectsTo events := by
  intro e he d raw connects
  have encodes := h e he d raw connects
  exact ⟨encodes, decode?_of_encode?_unix encodes⟩

end UnixAddress

namespace Connector

variable {c : Connector} {endpoint : String} {port : UInt32} {timeout : Option Duration}
  {a : UnixAddress}

theorem connect_spells (named : Target.ofEndpoint endpoint port = .ok (.unix a)) :
    (c.connect endpoint port timeout).Only a.spells := by
  refine connect_only (fun target named' => ?_) ?_ ?_ ?_
  · obtain rfl : Target.unix a = target := Except.ok.inj (named.symm.trans named')
    have connects : (connectAddress .unix (.unix a) .unix).Only a.spells := by
      refine only_connectAddress ?_ ?_
      · rintro _ h d raw rfl
        exact h.elim
      · rintro d raw encodes _ _ ⟨⟩
        exact encodes
    exact Step.meets_ofAttempt.mpr connects
  · exact fun _ _ h d raw connects => absurd connects (connectless_of_routine h d raw)
  · simp [UnixAddress.spells]
  · simp [UnixAddress.spells]

theorem openLayer_spells (named : Target.ofEndpoint endpoint port = .ok (.unix a)) :
    (c.openLayer endpoint port timeout).Only a.spells := by
  refine openLayer_only (connect_spells named) ?_
  rintro _ h d raw rfl
  exact h.elim

end Connector

namespace UnixAddress

open SocketAddress

/-- A stored path is read back up to its first zero byte, so whole exactly where it has none, and
two paths are stored alike where they differ in zero bytes at the end only. An endpoint that names a
path connects to what it spells, as far as its first zero byte, and to nothing else. -/
theorem read_back_until_zero (a : UnixAddress) :
    (∀ raw, encode? (.unix a) = some raw → a.ReadBack raw) ∧
    ∀ (c : Connector) endpoint port timeout,
      Target.ofEndpoint endpoint port = .ok (.unix a) → a = ⟨Text.utf8 endpoint⟩ ∧
      (∀ events r, Runs (c.connect endpoint port timeout) events r → a.ConnectsTo events) ∧
      ∀ events r, Runs (c.openLayer endpoint port timeout) events r → a.ConnectsTo events := by
  constructor
  · exact fun _ => readBack_of_encode?
  · intro c endpoint port timeout named
    refine ⟨Target.path_of_unix named, fun events r runs => ?_, fun events r runs => ?_⟩
    · exact connectsTo_of_spells ((Connector.connect_spells named).of_runs runs)
    · exact connectsTo_of_spells ((Connector.openLayer_spells named).of_runs runs)

/-- A path without a zero byte, and the connect to it. -/
theorem read_back_until_zero_short :
    ∃ raw, encode? (.unix ⟨Text.utf8 "/s"⟩) = some raw ∧
      decode? ⟨raw, raw.length⟩ = some (.unix ⟨Text.utf8 "/s"⟩) ∧
      ∃ events r, Runs (Connector.connect ⟨{}, ⟨3⟩, none, none⟩ "/s" 0 none) events r ∧
        ConnectsTo ⟨Text.utf8 "/s"⟩ events := by
  have named : Target.ofEndpoint "/s" 0 = .ok (.unix ⟨Text.utf8 "/s"⟩) := by
    simp [Target.ofEndpoint]
  have zeroless : (0 : UInt8) ∉ Text.utf8 "/s" := by decide +kernel
  obtain ⟨raw, encodes⟩ := Option.isSome_iff_exists.mp
    (by decide +kernel : (encode? (.unix ⟨Text.utf8 "/s"⟩)).isSome)
  obtain ⟨_, runs, _⟩ := Connector.exists_short_path ⟨{}, ⟨3⟩, none, none⟩ none 4
  obtain ⟨readBack, connectsTo⟩ := read_back_until_zero ⟨Text.utf8 "/s"⟩
  have connects := (connectsTo _ _ _ _ named).2.1 _ _ runs
  exact ⟨raw, encodes, (readBack _ encodes).whole.mpr zeroless, _, _, runs, connects⟩

/-- With a zero byte inside, a path is read back short of what it is, and the endpoint that spells
it connects to the shorter path. -/
theorem zero_byte_ends_path :
    ∃ raw events, encode? (.unix ⟨Text.utf8 "/a\x00b"⟩) = some raw ∧
      decode? ⟨raw, raw.length⟩ = some (.unix ⟨Text.utf8 "/a"⟩) ∧
      encode? (.unix ⟨Text.utf8 "/a\x00"⟩) = encode? (.unix ⟨Text.utf8 "/a"⟩) ∧
      (∃ r, Runs (Connector.connect ⟨{}, ⟨3⟩, none, none⟩ "/a\x00b" 0 none) events r) ∧
      ∃ e ∈ events, e.request = .connect 4 raw := by
  have named : Target.ofEndpoint "/a\x00b" 0 = .ok (.unix ⟨Text.utf8 "/a\x00b"⟩) := by
    simp [Target.ofEndpoint]
  obtain ⟨raw, encodes⟩ := Option.isSome_iff_exists.mp
    (by decide +kernel : (encode? (.unix ⟨Text.utf8 "/a\x00b"⟩)).isSome)
  have cut : untilZero ⟨Text.utf8 "/a\x00b"⟩ = ⟨Text.utf8 "/a"⟩ := by decide +kernel
  have addressed : Connector.ipOf (.ok ⟨[1, 0], 2⟩) = some ⟨"127.0.0.1", false⟩ := by decide
  have large : Descriptor.leastReceiveBuffer ≤ (65536 : Int).toNat := by decide
  have runs : Runs (Connector.connect ⟨{}, ⟨3⟩, none, none⟩ "/a\x00b" 0 none) _ _ :=
    Connector.runs_path_connected named encodes 4 addressed large
  refine ⟨raw, _, encodes, ?_, by decide +kernel, ⟨_, runs⟩, ?_⟩
  · rw [decode?_of_encode?_unix encodes, cut]
  · exact ⟨⟨.connect 4 raw, (.ok () : Reply Unit)⟩, by simp [Connector.granted], rfl⟩

end UnixAddress
end StreamTransport
