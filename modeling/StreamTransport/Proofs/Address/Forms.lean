import StreamTransport.Address.Wire

/-!
# Fields of the kernel's form

Where the fields of an address stand in the kernel's form and what their bytes
are. Ports are in network order; flow information, scope, context id and VSOCK
port are in native order, low byte first. Fields follow each other without a
gap. Reading looks at the fields alone, so internet and VSOCK addresses come
back as they went.
-/

set_option autoImplicit false

namespace StreamTransport

namespace Octets

/-- The high byte in front. -/
def networkOrder (word : UInt16) : Bytes := [(word >>> 8).toUInt8, word.toUInt8]

/-- The low byte in front. -/
def nativeOrder (word : UInt32) : Bytes :=
  [word.toUInt8, (word >>> 8).toUInt8, (word >>> 16).toUInt8, (word >>> 24).toUInt8]

example : networkOrder 0x0102 = [1, 2] ∧ nativeOrder 0x01020304 = [4, 3, 2, 1] := by decide

theorem bigEndian_eq_networkOrder (word : UInt16) :
    bigEndian 2 word.toNat = networkOrder word := by
  have high : UInt8.ofNat (word.toNat / 256 % 256) = (word >>> 8).toUInt8 := by
    apply UInt8.toNat_inj.mp
    simp [Nat.shiftRight_eq_div_pow]
  have low : UInt8.ofNat (word.toNat % 256) = word.toUInt8 := by
    apply UInt8.toNat_inj.mp
    simp
  simp only [bigEndian, littleEndian, List.reverse_cons, List.reverse_nil, List.nil_append,
    List.cons_append, networkOrder, high, low]

theorem littleEndian_eq_nativeOrder (word : UInt32) :
    littleEndian 4 word.toNat = nativeOrder word := by
  simp only [littleEndian, nativeOrder, List.cons.injEq, ← UInt8.toNat_inj,
    Nat.div_div_eq_div_mul, and_true]
  simp [Nat.shiftRight_eq_div_pow]

theorem ofNat_ofBigEndian_networkOrder (word : UInt16) :
    UInt16.ofNat (ofBigEndian (networkOrder word)) = word := by
  have fits : word.toNat < span 2 := word.toNat_lt
  rw [← bigEndian_eq_networkOrder, ofBigEndian_bigEndian 2 _ fits, UInt16.ofNat_toNat]

theorem networkOrder_ofNat_ofBigEndian {bs : Bytes} (two : bs.length = 2) :
    networkOrder (UInt16.ofNat (ofBigEndian bs)) = bs := by
  have fits : ofBigEndian bs < 2 ^ 16 := by
    have := ofBigEndian_lt bs
    rwa [two] at this
  have back := bigEndian_ofBigEndian bs
  rw [two] at back
  rw [← bigEndian_eq_networkOrder, UInt16.toNat_ofNat_of_lt' fits, back]

theorem ofNat_ofLittleEndian_nativeOrder (word : UInt32) :
    UInt32.ofNat (ofLittleEndian (nativeOrder word)) = word := by
  have fits : word.toNat < span 4 := word.toNat_lt
  rw [← littleEndian_eq_nativeOrder, ofLittleEndian_littleEndian 4 _ fits, UInt32.ofNat_toNat]

theorem nativeOrder_ofNat_ofLittleEndian {bs : Bytes} (four : bs.length = 4) :
    nativeOrder (UInt32.ofNat (ofLittleEndian bs)) = bs := by
  have fits : ofLittleEndian bs < 2 ^ 32 := by
    have := ofLittleEndian_lt bs
    rwa [four] at this
  have back := littleEndian_ofLittleEndian bs
  rw [four] at back
  rw [← littleEndian_eq_nativeOrder, UInt32.toNat_ofNat_of_lt' fits, back]

/-- Parts one behind the other, from `start` on, each with the place where it starts. -/
def tile (start : Nat) : List Bytes → List (Nat × Bytes)
  | [] => []
  | part :: rest => (start, part) :: tile (start + part.length) rest

/-- Each part is found where it was put. -/
theorem window_tile (before : Bytes) (parts : List Bytes) :
    ∀ field ∈ tile before.length parts,
      window (before ++ parts.flatten) field.1 field.2.length = field.2 := by
  induction parts generalizing before with
  | nil => simp [tile]
  | cons part rest ih =>
    intro field member
    -- what is behind a part is placed as if the part had been in front from the start
    rw [List.flatten_cons, ← List.append_assoc]
    rcases List.mem_cons.mp member with here | behind
    · rw [here]
      exact window_append before part rest.flatten
    · apply ih (before ++ part)
      rwa [List.length_append]

end Octets

namespace SocketAddress

open Octets

/-- Where the fields of an address start, and their bytes. -/
def fields : SocketAddress → List (Nat × Bytes)
  | inet a => [(0, [2, 0]), (2, networkOrder a.port), (4, a.ip.octets), (8, List.replicate 8 0)]
  | inet6 a =>
    [(0, [10, 0]), (2, networkOrder a.port), (4, nativeOrder a.flowInfo), (8, a.ip.octets),
      (24, nativeOrder a.scope)]
  | unix a =>
    [(0, [1, 0]), (2, a.path), (2 + a.path.length, List.replicate (108 - a.path.length) 0)]
  | vsock a =>
    [(0, [40, 0]), (2, [0, 0]), (4, nativeOrder a.port), (8, nativeOrder a.cid),
      (12, [if a.cid = 2 then 1 else 0]), (13, [0, 0, 0])]

theorem fields_eq_tile (a : SocketAddress) : a.fields = tile 0 (a.fields.map Prod.snd) := by
  cases a with
  | inet a => simp [fields, tile, networkOrder, a.ip.length_octets]
  | inet6 a => simp [fields, tile, networkOrder, nativeOrder, a.ip.length_octets]
  | unix a => simp [fields, tile]
  | vsock a => simp [fields, tile, nativeOrder]

theorem familyBytes_eq (family : Family) : familyBytes family = [UInt8.ofNat family.number, 0] := by
  cases family <;> decide

/-- An address is written field by field. -/
theorem eq_fields_of_encode? {a : SocketAddress} {raw : Bytes} (h : encode? a = some raw) :
    raw = (a.fields.map Prod.snd).flatten := by
  cases a with
  | inet a =>
    obtain rfl : encodeInet a = raw := Option.some.inj h
    simp [encodeInet, fields, familyBytes_eq, Family.number, bigEndian_eq_networkOrder]
  | inet6 a =>
    obtain rfl : encodeInet6 a = raw := Option.some.inj h
    simp [encodeInet6, fields, familyBytes_eq, Family.number, bigEndian_eq_networkOrder,
      littleEndian_eq_nativeOrder]
  | unix a =>
    change encodeUnix? a = some raw at h
    simp only [encodeUnix?, Option.ite_none_left_eq_some, Option.some.injEq] at h
    simp [← h.2, fields, familyBytes_eq, Family.number, pathRoom]
  | vsock a =>
    obtain rfl : encodeVsock a = raw := Option.some.inj h
    have flag : (if a.cid = hostContext then 1 else 0 : UInt8) = if a.cid = 2 then 1 else 0 := rfl
    simp [encodeVsock, flag, fields, familyBytes_eq, Family.number, littleEndian_eq_nativeOrder]

/-- Every field of an address stands in its place. -/
def Placed (a : SocketAddress) (raw : Bytes) : Prop :=
  ∀ field ∈ a.fields, window raw field.1 field.2.length = field.2

theorem placed_of_encode? {a : SocketAddress} {raw : Bytes} (h : encode? a = some raw) :
    a.Placed raw := by
  intro field member
  rw [fields_eq_tile] at member
  rw [eq_fields_of_encode? h]
  exact window_tile [] _ field member

/-- What is read of a family's form. -/
def readAs (raw : KernelAddress) : Family → SocketAddress
  | .inet => inet (decodeInet raw.storage)
  | .inet6 => inet6 (decodeInet6 raw.storage)
  | .unix => unix (decodeUnix raw.storage raw.length)
  | .vsock => vsock (decodeVsock raw.storage)

theorem ofNumber?_eq_some_iff {bs : Bytes} (two : bs.length = 2) (family : Family) :
    Family.ofNumber? (ofLittleEndian bs) = some family ↔ bs = familyBytes family := by
  constructor
  · intro named
    have number : family.number = ofLittleEndian bs := by
      exact_mod_cast Family.number_of_ofNumber? named
    rw [familyBytes, number, ← two, littleEndian_ofLittleEndian]
  · intro spelled
    rw [spelled]
    cases family <;> decide

theorem two_le_formLength (family : Family) : 2 ≤ formLength family := by
  cases family <;> decide

/-- An address is read where a family is named and its form is reported whole. -/
theorem decode?_eq_some_iff {raw : KernelAddress} {a : SocketAddress} :
    decode? raw = some a ↔ ∃ family, window raw.storage 0 2 = familyBytes family ∧
      formLength family ≤ raw.length ∧ readAs raw family = a := by
  have two := length_window raw.storage 0 2
  constructor
  · intro h
    unfold decode? at h
    split at h
    · contradiction
    · split at h
      · contradiction
      · rename_i family named
        split at h
        · contradiction
        · rename_i whole
          refine ⟨family, (ofNumber?_eq_some_iff two family).mp named, Nat.not_lt.mp whole, ?_⟩
          cases family <;> exact Option.some.inj h
  · rintro ⟨family, spelled, whole, rfl⟩
    have named := (ofNumber?_eq_some_iff two family).mpr spelled
    have reported : ¬ raw.length < 2 := by
      have := two_le_formLength family
      omega
    unfold decode?
    rw [if_neg reported, named]
    simp only [if_neg (Nat.not_lt.mpr whole)]
    cases family <;> rfl

section
variable {raw : Bytes}

theorem word16_of_window {offset : Nat} {word : UInt16}
    (stands : window raw offset 2 = networkOrder word) :
    UInt16.ofNat (ofBigEndian (window raw offset 2)) = word := by
  rw [stands, ofNat_ofBigEndian_networkOrder]

theorem word32_of_window {offset : Nat} {word : UInt32}
    (stands : window raw offset 4 = nativeOrder word) :
    UInt32.ofNat (ofLittleEndian (window raw offset 4)) = word := by
  rw [stands, ofNat_ofLittleEndian_nativeOrder]

theorem decodeInet_of_placed {a : InetAddress} (placed : (inet a).Placed raw) :
    decodeInet raw = a := by
  simp only [Placed, fields, List.forall_mem_cons, a.ip.length_octets] at placed
  obtain ⟨-, port, ip, -⟩ := placed
  rcases a with ⟨⟨octets, _⟩, word⟩
  simp only [decodeInet, InetAddress.mk.injEq, Ipv4.mk.injEq]
  exact ⟨ip, word16_of_window port⟩

theorem decodeInet6_of_placed {a : Inet6Address} (placed : (inet6 a).Placed raw) :
    decodeInet6 raw = a := by
  simp only [Placed, fields, List.forall_mem_cons, a.ip.length_octets] at placed
  obtain ⟨-, port, flowInfo, ip, scope, -⟩ := placed
  rcases a with ⟨⟨octets, _⟩, word, flow, zone⟩
  simp only [decodeInet6, Inet6Address.mk.injEq, Ipv6.mk.injEq]
  exact ⟨ip, word16_of_window port, word32_of_window flowInfo, word32_of_window scope⟩

theorem decodeVsock_of_placed {a : VsockAddress} (placed : (vsock a).Placed raw) :
    decodeVsock raw = a := by
  simp only [Placed, fields, List.forall_mem_cons] at placed
  obtain ⟨-, -, port, cid, -⟩ := placed
  rcases a with ⟨context, number⟩
  simp only [decodeVsock, VsockAddress.mk.injEq]
  exact ⟨word32_of_window cid, word32_of_window port⟩

end

/-- How many bytes the form of an address has. -/
def size : SocketAddress → Nat
  | inet _ => 16
  | inet6 _ => 28
  | unix _ => 110
  | vsock _ => 16

theorem length_of_encode? {a : SocketAddress} {raw : Bytes} (h : encode? a = some raw) :
    raw.length = a.size := by
  cases a with
  | inet a => rw [← Option.some.inj h, length_encodeInet, size]
  | inet6 a => rw [← Option.some.inj h, length_encodeInet6, size]
  | unix a => exact length_encodeUnix? h
  | vsock a => rw [← Option.some.inj h, length_encodeVsock, size]

/-- An internet or VSOCK address is read back as it was written. -/
theorem decode?_of_encode? {a : SocketAddress} {raw : Bytes} (h : encode? a = some raw)
    (pathless : a.family ≠ .unix) : decode? ⟨raw, raw.length⟩ = some a := by
  have placed := placed_of_encode? h
  have number : window raw 0 2 = familyBytes a.family := by
    have header : (0, familyBytes a.family) ∈ a.fields := by
      cases a <;> simp [fields, family, familyBytes_eq, Family.number]
    have := placed _ header
    rwa [familyBytes, length_littleEndian] at this
  apply decode?_eq_some_iff.mpr
  refine ⟨a.family, number, ?_, ?_⟩
  · rw [length_of_encode? h]
    cases a <;> simp [family, formLength, size]
  · cases a with
    | inet a => exact congrArg inet (decodeInet_of_placed placed)
    | inet6 a => exact congrArg inet6 (decodeInet6_of_placed placed)
    | unix a => exact absurd rfl pathless
    | vsock a => exact congrArg vsock (decodeVsock_of_placed placed)

/-- An address has a form, with every field in its place, from which it is read back. -/
def Survives (a : SocketAddress) (length : Nat) : Prop :=
  ∃ raw, encode? a = some raw ∧ raw.length = length ∧ a.Placed raw ∧
    decode? ⟨raw, raw.length⟩ = some a

/-- Internet and VSOCK addresses survive the trip through the kernel's form. -/
theorem survive_kernel_form :
    (∀ a : InetAddress, (inet a).Survives 16) ∧ (∀ a : Inet6Address, (inet6 a).Survives 28) ∧
      ∀ a : VsockAddress, (vsock a).Survives 16 := by
  have survives : ∀ (a : SocketAddress) (raw : Bytes), encode? a = some raw →
      a.family ≠ .unix → a.Survives a.size := by
    intro a raw h pathless
    exact ⟨raw, h, length_of_encode? h, placed_of_encode? h, decode?_of_encode? h pathless⟩
  refine ⟨fun a => ?_, fun a => ?_, fun a => ?_⟩
  · exact survives (inet a) (encodeInet a) rfl nofun
  · exact survives (inet6 a) (encodeInet6 a) rfl nofun
  · exact survives (vsock a) (encodeVsock a) rfl nofun

end SocketAddress
end StreamTransport
