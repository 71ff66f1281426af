import StreamTransport.Address.Basic

/-!
# The kernel's form of an address

Every form starts with the family number, low byte first. Ports and internet
addresses follow in network order; flow information, scope, context id and
VSOCK port are stored low byte first. A Unix path is stored with at least one
zero byte behind it, so it has at most 107 bytes and is not empty.

Reading looks at a buffer and the length the kernel reported for it, and takes
nothing from beyond that length.
-/

set_option autoImplicit false

namespace StreamTransport

/-- What the kernel leaves behind: a buffer and the length of the address in it. -/
structure KernelAddress where
  storage : Bytes
  length : Nat
  deriving DecidableEq

namespace SocketAddress

open Octets

/-- Room for a Unix path, its terminator included. -/
def pathRoom : Nat := 108

/-- The context id that names the host. -/
def hostContext : UInt32 := 2

def familyBytes (family : Family) : Bytes := littleEndian 2 family.number

def encodeInet (a : InetAddress) : Bytes :=
  familyBytes .inet ++ bigEndian 2 a.port.toNat ++ a.ip.octets ++ List.replicate 8 0

def encodeInet6 (a : Inet6Address) : Bytes :=
  familyBytes .inet6 ++ bigEndian 2 a.port.toNat ++ littleEndian 4 a.flowInfo.toNat ++
    a.ip.octets ++ littleEndian 4 a.scope.toNat

def encodeUnix? (a : UnixAddress) : Option Bytes :=
  if a.path = [] ∨ pathRoom ≤ a.path.length then none
  else some (familyBytes .unix ++ a.path ++ List.replicate (pathRoom - a.path.length) 0)

/-- The flag byte asks for the host itself and is set for its context id only. -/
def encodeVsock (a : VsockAddress) : Bytes :=
  familyBytes .vsock ++ [0, 0] ++ littleEndian 4 a.port.toNat ++ littleEndian 4 a.cid.toNat ++
    [if a.cid = hostContext then 1 else 0] ++ List.replicate 3 0

def encode? : SocketAddress → Option Bytes
  | inet a => some (encodeInet a)
  | inet6 a => some (encodeInet6 a)
  | unix a => encodeUnix? a
  | vsock a => some (encodeVsock a)

/-- The length of a family's form, where it is fixed. -/
def formLength : Family → Nat
  | .inet => 16
  | .inet6 => 28
  | .unix => 2
  | .vsock => 16

def decodeInet (storage : Bytes) : InetAddress where
  ip := ⟨window storage 4 4, length_window _ _ _⟩
  port := UInt16.ofNat (ofBigEndian (window storage 2 2))

def decodeInet6 (storage : Bytes) : Inet6Address where
  ip := ⟨window storage 8 16, length_window _ _ _⟩
  port := UInt16.ofNat (ofBigEndian (window storage 2 2))
  flowInfo := UInt32.ofNat (ofLittleEndian (window storage 4 4))
  scope := UInt32.ofNat (ofLittleEndian (window storage 24 4))

/-- The path ends at the first zero byte or where the report ends. -/
def decodeUnix (storage : Bytes) (length : Nat) : UnixAddress where
  path := (window storage 2 (min (length - 2) pathRoom)).takeWhile (· != 0)

def decodeVsock (storage : Bytes) : VsockAddress where
  cid := UInt32.ofNat (ofLittleEndian (window storage 8 4))
  port := UInt32.ofNat (ofLittleEndian (window storage 4 4))

def decode? (raw : KernelAddress) : Option SocketAddress :=
  if raw.length < 2 then none
  else
    match Family.ofNumber? (ofLittleEndian (window raw.storage 0 2)) with
    | none => none
    | some family =>
      if raw.length < formLength family then none
      else
        match family with
        | .inet => some (inet (decodeInet raw.storage))
        | .inet6 => some (inet6 (decodeInet6 raw.storage))
        | .unix => some (unix (decodeUnix raw.storage raw.length))
        | .vsock => some (vsock (decodeVsock raw.storage))

theorem length_encodeInet (a : InetAddress) : (encodeInet a).length = 16 := by
  simp [encodeInet, familyBytes, length_littleEndian, length_bigEndian, a.ip.length_octets]

theorem length_encodeInet6 (a : Inet6Address) : (encodeInet6 a).length = 28 := by
  simp [encodeInet6, familyBytes, length_littleEndian, length_bigEndian, a.ip.length_octets]

theorem length_encodeUnix? {a : UnixAddress} {raw : Bytes} (h : encodeUnix? a = some raw) :
    raw.length = 110 := by
  unfold encodeUnix? at h
  split at h
  · simp at h
  · rename_i hp
    simp only [not_or, Nat.not_le] at hp
    cases h
    simp [familyBytes, length_littleEndian, pathRoom] at hp ⊢
    omega

theorem length_encodeVsock (a : VsockAddress) : (encodeVsock a).length = 16 := by
  simp [encodeVsock, familyBytes, length_littleEndian]

end SocketAddress
end StreamTransport
