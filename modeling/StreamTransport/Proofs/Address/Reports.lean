import StreamTransport.Proofs.Address.Forms
import StreamTransport.Proofs.Address.Paths

/-!
# Addresses that the kernel reports

A report is a buffer and a length. An address that is read of it and written
again is the same buffer with the padding cleared: what the address was read
from stays, the flag of a VSOCK address follows its context id, and zeros stand
behind a path. Only a path that is empty, without a name or abstract, and one
that leaves no room for a terminator cannot be written again.
-/

set_option autoImplicit false

namespace StreamTransport.SocketAddress

open Octets

/-- A string in a buffer that ends before the first zero byte or where its room ends. -/
structure StopsAtZero (buffer : Bytes) (offset room : Nat) (string : Bytes) : Prop where
  read : string = window buffer offset string.length
  zeroless : (0 : UInt8) ∉ string
  within : string.length ≤ room
  ends : string.length = room ∨ buffer.getD (offset + string.length) 0 = 0

theorem stopsAtZero_takeWhile (buffer : Bytes) (offset room : Nat) :
    StopsAtZero buffer offset room ((window buffer offset room).takeWhile (· != 0)) := by
  induction room generalizing offset with
  | zero =>
    have empty : (window buffer offset 0).takeWhile (· != 0) = [] := rfl
    rw [empty]
    exact ⟨rfl, List.not_mem_nil, Nat.le_refl 0, .inl rfl⟩
  | succ room ih =>
    -- the room shrinks from the front: the string behind the first byte starts one further on
    obtain ⟨read, zeroless, within, ends⟩ := ih (offset + 1)
    rw [window_succ]
    by_cases zero : buffer.getD offset 0 = 0
    · rw [List.takeWhile_cons, if_neg (by simp only [zero]; decide)]
      exact ⟨rfl, List.not_mem_nil, Nat.zero_le _, .inr zero⟩
    · rw [List.takeWhile_cons, if_pos (bne_iff_ne.mpr zero)]
      generalize (window buffer (offset + 1) room).takeWhile (· != 0) = rest at *
      constructor
      · rw [List.length_cons, window_succ, ← read]
      · exact List.not_mem_cons_of_ne_of_not_mem (Ne.symm zero) zeroless
      · exact Nat.succ_le_succ within
      · have place : offset + (rest.length + 1) = offset + 1 + rest.length := by omega
        rw [List.length_cons, place, Nat.succ_inj]
        exact ends

/-- The bytes that an address was read from, with zeros for the padding. -/
def cleaned (storage : Bytes) : SocketAddress → Bytes
  | inet _ => window storage 0 8 ++ List.replicate 8 0
  | inet6 _ => window storage 0 28
  | unix a =>
    window storage 0 (2 + a.path.length) ++ List.replicate (108 - a.path.length) 0
  | vsock a =>
    window storage 0 2 ++ [0, 0] ++ window storage 4 8 ++
      [if a.cid = 2 then 1 else 0, 0, 0, 0]

/-- The fields of an address that was read are the bytes it was read from. -/
theorem fields_of_decode? {raw : KernelAddress} {a : SocketAddress} (h : decode? raw = some a) :
    (a.fields.map Prod.snd).flatten = a.cleaned raw.storage := by
  obtain ⟨family, spelled, -, rfl⟩ := decode?_eq_some_iff.mp h
  rw [familyBytes_eq] at spelled
  have port := networkOrder_ofNat_ofBigEndian (length_window raw.storage 2 2)
  have word : ∀ offset, nativeOrder (UInt32.ofNat (ofLittleEndian (window raw.storage offset 4))) =
      window raw.storage offset 4 := by
    intro offset
    exact nativeOrder_ofNat_ofLittleEndian (length_window raw.storage offset 4)
  -- in each form the windows that are cleaned whole are cut where the fields meet
  cases family with
  | inet =>
    have joined : window raw.storage 0 8 =
        window raw.storage 0 2 ++ window raw.storage 2 2 ++ window raw.storage 4 4 := by
      rw [window_add _ 0 4 4, window_add _ 0 2 2]
    simp [readAs, cleaned, fields, decodeInet, joined, spelled, Family.number, port]
  | inet6 =>
    have joined : window raw.storage 0 28 = window raw.storage 0 2 ++ window raw.storage 2 2 ++
        window raw.storage 4 4 ++ window raw.storage 8 16 ++ window raw.storage 24 4 := by
      rw [window_add _ 0 24 4, window_add _ 0 8 16, window_add _ 0 4 4, window_add _ 0 2 2]
    simp [readAs, cleaned, fields, decodeInet6, joined, spelled, Family.number, port, word]
  | unix =>
    obtain ⟨read, -⟩ := stopsAtZero_takeWhile raw.storage 2 (min (raw.length - 2) 108)
    simp only [readAs, cleaned, fields, decodeUnix, pathRoom, window_add, Nat.zero_add, ← read,
      spelled]
    simp [Family.number]
  | vsock =>
    have joined : window raw.storage 4 8 = window raw.storage 4 4 ++ window raw.storage 8 4 := by
      rw [window_add _ 4 4 4]
    simp [readAs, cleaned, fields, decodeVsock, joined, spelled, Family.number, word]

theorem path_of_decode? {raw : KernelAddress} {a : UnixAddress}
    (h : decode? raw = some (.unix a)) :
    StopsAtZero raw.storage 2 (min (raw.length - 2) 108) a.path := by
  obtain ⟨family, -, -, read⟩ := decode?_eq_some_iff.mp h
  cases family with
  | unix =>
    obtain rfl := SocketAddress.unix.inj read
    exact stopsAtZero_takeWhile ..
  | inet => contradiction
  | inet6 => contradiction
  | vsock => contradiction

/-- Only a path that is empty or fills its room cannot be written again. -/
theorem encode?_eq_none_iff {raw : KernelAddress} {a : SocketAddress} (h : decode? raw = some a) :
    encode? a = none ↔ ∃ u, a = .unix u ∧ (u.path = [] ∨ u.path.length = 108) := by
  cases a with
  | inet a => simp [encode?]
  | inet6 a => simp [encode?]
  | vsock a => simp [encode?]
  | unix a =>
    have within := (path_of_decode? h).within
    have full : 108 ≤ a.path.length ↔ a.path.length = 108 := by omega
    change encodeUnix? a = none ↔ _
    simp only [encodeUnix?, pathRoom, full, ite_eq_left_iff, reduceCtorEq, imp_false, not_not,
      SocketAddress.unix.injEq, exists_eq_left']

/-- A path that was read has no zero byte, so it comes back whole. -/
theorem decode?_of_decode? {raw : KernelAddress} {a : SocketAddress} {r : Bytes}
    (h : decode? raw = some a) (again : encode? a = some r) : decode? ⟨r, r.length⟩ = some a := by
  cases a with
  | inet a => exact decode?_of_encode? again nofun
  | inet6 a => exact decode?_of_encode? again nofun
  | vsock a => exact decode?_of_encode? again nofun
  | unix a => exact (decode?_eq_unix_iff again).mpr (path_of_decode? h).zeroless

/-- What comes of writing an address that was read: the report with its padding cleared, which is
read as the same address. -/
structure Rewritten (raw : KernelAddress) (a : SocketAddress) (r : Bytes) : Prop where
  length : r.length = a.size
  bytes : r = a.cleaned raw.storage
  read : decode? ⟨r, r.length⟩ = some a

theorem encode_undoes_decode {raw : KernelAddress} {a : SocketAddress} (h : decode? raw = some a) :
    (∀ r, encode? a = some r → Rewritten raw a r) ∧
    (encode? a = none ↔ ∃ u, a = .unix u ∧ (u.path = [] ∨ u.path.length = 108)) ∧
    ∀ u, a = .unix u → StopsAtZero raw.storage 2 (min (raw.length - 2) 108) u.path := by
  have rewritten : ∀ r, encode? a = some r → Rewritten raw a r := by
    intro r again
    constructor
    · exact length_of_encode? again
    · rw [eq_fields_of_encode? again, fields_of_decode? h]
    · exact decode?_of_decode? h again
  have path : ∀ u, a = .unix u →
      StopsAtZero raw.storage 2 (min (raw.length - 2) 108) u.path := by
    intro u named
    rw [named] at h
    exact path_of_decode? h
  exact ⟨rewritten, encode?_eq_none_iff h, path⟩

/-- A path without a terminator ends where the report ends, and what stands behind is not taken. -/
theorem encode_undoes_decode_unterminated :
    decode? ⟨[1, 0, 47, 97, 98, 99], 4⟩ = some (.unix ⟨[47, 97]⟩) ∧
    ∃ r, encode? (.unix ⟨[47, 97]⟩) = some r ∧
      r = [1, 0, 47, 97] ++ List.replicate 106 0 ∧
      decode? ⟨r, r.length⟩ = some (.unix ⟨[47, 97]⟩) ∧
      StopsAtZero [1, 0, 47, 97, 98, 99] 2 2 [47, 97] := by
  have read : decode? ⟨[1, 0, 47, 97, 98, 99], 4⟩ = some (.unix ⟨[47, 97]⟩) := by decide
  obtain ⟨rewritten, -, path⟩ := encode_undoes_decode read
  obtain ⟨r, again⟩ := Option.isSome_iff_exists.mp
    (by decide : (encode? (.unix ⟨[47, 97]⟩)).isSome)
  obtain ⟨-, bytes, back⟩ := rewritten r again
  exact ⟨read, r, again, bytes, back, path _ rfl⟩

end StreamTransport.SocketAddress
