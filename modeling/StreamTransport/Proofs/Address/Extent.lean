import StreamTransport.Proofs.Address.Forms

/-!
# How far a report is read

An address is read of the bytes that the kernel reported and of none behind
them: the buffer may be cut off where the report ends. It is read where the
report names a supported family and covers its form, and nowhere else. A path
goes to the end of the report at most.
-/

set_option autoImplicit false

namespace StreamTransport

/-- A window that ends within the first bytes is one into these bytes. -/
theorem Octets.window_take {buffer : Bytes} {offset width length : Nat}
    (within : offset + width ≤ length) :
    window (buffer.take length) offset width = window buffer offset width := by
  apply List.map_congr_left
  intro i here
  have before : offset + i < length := by
    have := List.mem_range.mp here
    omega
  rw [List.getD_eq_getElem?_getD, List.getElem?_take_of_lt before, ← List.getD_eq_getElem?_getD]

namespace SocketAddress

open Octets

variable {storage storage' : Bytes} {length : Nat} {family : Family} {a : SocketAddress}

theorem readAs_take (whole : formLength family ≤ length) :
    readAs ⟨storage.take length, length⟩ family = readAs ⟨storage, length⟩ family := by
  cases family with
  | inet =>
    have whole : 16 ≤ length := whole
    simp (disch := omega) only [readAs, decodeInet, window_take]
  | inet6 =>
    have whole : 28 ≤ length := whole
    simp (disch := omega) only [readAs, decodeInet6, window_take]
  | vsock =>
    have whole : 16 ≤ length := whole
    simp (disch := omega) only [readAs, decodeVsock, window_take]
  | unix =>
    have whole : 2 ≤ length := whole
    simp (disch := omega) only [readAs, decodeUnix, window_take]

/-- What lies behind the report is not looked at. -/
theorem decode?_take (storage : Bytes) (length : Nat) :
    decode? ⟨storage.take length, length⟩ = decode? ⟨storage, length⟩ := by
  apply Option.ext
  intro a
  rw [decode?_eq_some_iff, decode?_eq_some_iff]
  refine exists_congr fun family => ?_
  by_cases whole : formLength family ≤ length
  · have header : 0 + 2 ≤ length := by
      have := two_le_formLength family
      omega
    simp only [readAs_take whole, window_take header]
  · simp only [whole, false_and, and_false]

/-- A report covers the form of the family that it names, low byte first. -/
structure Covers (storage : Bytes) (length : Nat) (family : Family) : Prop where
  header : 2 ≤ length
  named : storage.take 2 = [UInt8.ofNat family.number, 0]
  inet : family = .inet → 16 ≤ length
  inet6 : family = .inet6 → 28 ≤ length
  vsock : family = .vsock → 16 ≤ length

theorem family_readAs (raw : KernelAddress) (family : Family) :
    (readAs raw family).family = family := by
  cases family <;> rfl

theorem covers_iff (room : 2 ≤ storage.length) :
    Covers storage length family ↔
      window storage 0 2 = familyBytes family ∧ formLength family ≤ length := by
  have first : window storage 0 2 = storage.take 2 := by
    rw [window_eq_of_length_le _ _ _ room, List.drop_zero]
  rw [first, familyBytes_eq]
  constructor
  · intro covers
    refine ⟨covers.named, ?_⟩
    cases family with
    | inet => exact covers.inet rfl
    | inet6 => exact covers.inet6 rfl
    | unix => exact covers.header
    | vsock => exact covers.vsock rfl
  · rintro ⟨named, whole⟩
    refine ⟨Nat.le_trans (two_le_formLength family) whole, named, ?_, ?_, ?_⟩
    all_goals
      rintro rfl
      exact whole

/-- An address of a family is read where the report covers the form of that family. -/
theorem map_family_decode?_eq_some_iff (room : 2 ≤ storage.length) :
    (decode? ⟨storage, length⟩).map SocketAddress.family = some family ↔
      Covers storage length family := by
  rw [covers_iff room, Option.map_eq_some_iff]
  constructor
  · rintro ⟨a, read, rfl⟩
    obtain ⟨family, named, whole, rfl⟩ := decode?_eq_some_iff.mp read
    rw [family_readAs]
    exact ⟨named, whole⟩
  · rintro ⟨named, whole⟩
    exact ⟨readAs ⟨storage, length⟩ family,
      decode?_eq_some_iff.mpr ⟨family, named, whole, rfl⟩, family_readAs _ family⟩

/-- The path of a report is what stands behind the family number, to the end of the report or of
the form, and before the first zero byte. -/
theorem path_of_report (room : 110 ≤ storage.length) {u : UnixAddress}
    (read : decode? ⟨storage, length⟩ = some (.unix u)) :
    u.path = ((storage.take (min length 110)).drop 2).takeWhile (· != 0) := by
  obtain ⟨family, -, -, same⟩ := decode?_eq_some_iff.mp read
  have unix : family = .unix := by
    rw [← family_readAs ⟨storage, length⟩ family, same]
    rfl
  subst unix
  obtain rfl := SocketAddress.unix.inj same
  have within : 2 + min (length - 2) pathRoom ≤ storage.length := by
    simp only [pathRoom]
    omega
  have reported : min length 110 - 2 = min (length - 2) pathRoom := by
    simp only [pathRoom]
    omega
  rw [decodeUnix, window_eq_of_length_le _ _ _ within, List.drop_take, reported]

/-- Two reports that agree as far as they go are read alike: as an address of a family exactly if
they cover the form of that family, and a path no further than they go. -/
theorem read_as_reported (room : 110 ≤ storage.length)
    (agree : storage.take length = storage'.take length) :
    decode? ⟨storage, length⟩ = decode? ⟨storage', length⟩ ∧
    (∀ family, (decode? ⟨storage, length⟩).map SocketAddress.family = some family ↔
      Covers storage length family) ∧
    ∀ u, decode? ⟨storage, length⟩ = some (.unix u) →
      u.path = ((storage.take (min length 110)).drop 2).takeWhile (· != 0) := by
  refine ⟨?_, fun family => ?_, fun u read => ?_⟩
  · rw [← decode?_take storage, agree, decode?_take]
  · exact map_family_decode?_eq_some_iff (by omega)
  · exact path_of_report room read

/-- What an earlier report has left behind the end of a path does not become part of it. -/
theorem read_as_reported_stale :
    let stale : Bytes := [1, 0, 47, 97] ++ List.replicate 106 98
    let fresh : Bytes := [1, 0, 47, 97] ++ List.replicate 106 0
    110 ≤ stale.length ∧ stale.take 4 = fresh.take 4 ∧
      decode? ⟨stale, 4⟩ = decode? ⟨fresh, 4⟩ ∧ Covers stale 4 .unix ∧
      decode? ⟨stale, 4⟩ = some (.unix ⟨[47, 97]⟩) := by
  intro stale fresh
  have room : 110 ≤ stale.length := by decide
  have agree : stale.take 4 = fresh.take 4 := by decide
  have read : decode? ⟨stale, 4⟩ = some (.unix ⟨[47, 97]⟩) := by decide
  obtain ⟨alike, covered, -⟩ := read_as_reported room agree
  exact ⟨room, agree, alike, (covered .unix).mp (by rw [read]; rfl), read⟩

end SocketAddress
end StreamTransport
