import StreamTransport.Address.Basic

/-!
# Resolved addresses and the choice among them

A host name resolves to an ordered list of candidates. Two policies pick one:
a redundancy race takes the first entry, or the first version 4 entry behind a
version 6 one; a direct connect scans from a given position under a soft
preference for version 6 and, where one is set, a hard requirement.
-/

set_option autoImplicit false

namespace StreamTransport

inductive IpVersion where
  | ipv4
  | ipv6
  deriving DecidableEq, Repr

namespace IpVersion

/-- The numeric selector of client settings: 4 or 6. -/
def ofSelector? (n : UInt32) : Option IpVersion :=
  if n = 4 then some ipv4 else if n = 6 then some ipv6 else none

def family : IpVersion → Family
  | ipv4 => .inet
  | ipv6 => .inet6

end IpVersion

structure AddressPolicy where
  preferIpv6 : Bool := false
  force : Option IpVersion := none
  deriving DecidableEq, Repr

/-- An address and what it takes to create a socket for it. -/
structure Candidate where
  address : SocketAddress
  family : Family
  sockType : Int
  protocol : Int
  deriving DecidableEq

/-- The kernel's number for a stream of bytes. -/
def streamType : Int := 1

def Candidate.stream (address : SocketAddress) : Candidate :=
  ⟨address, address.family, streamType, 0⟩

structure Resolution where
  candidates : List Candidate
  deriving DecidableEq

namespace Resolution

/-- Where the first candidate of a family stands. -/
def firstOf (family : Family) (candidates : List Candidate) : Option Nat :=
  candidates.findIdx? fun c => c.family = family

/-- The entry that takes part in a race. -/
def raceIndex (r : Resolution) : Option Nat :=
  match r.candidates with
  | [] => none
  | first :: rest =>
    if first.family = .inet6 then some (((firstOf .inet rest).map (· + 1)).getD 0) else some 0

/-- The entry that a policy picks at or after `start`. -/
def select (r : Resolution) (start : Nat) (policy : AddressPolicy) : Option Nat :=
  let rest := r.candidates.drop start
  if rest.isEmpty then none
  else
    let preferred := if policy.preferIpv6 then (firstOf .inet6 rest).getD 0 else 0
    match policy.force with
    | none => some (start + preferred)
    | some forced =>
      (firstOf forced.family (rest.drop preferred)).map fun i => start + preferred + i

theorem firstOf_lt {family : Family} {candidates : List Candidate} {i : Nat}
    (h : firstOf family candidates = some i) : i < candidates.length := by
  obtain ⟨bound, _⟩ := List.findIdx?_eq_some_iff_getElem.mp h
  exact bound

theorem select_lt {r : Resolution} {start : Nat} {policy : AddressPolicy} {i : Nat}
    (h : r.select start policy = some i) : start ≤ i ∧ i < r.candidates.length := by
  have preferredLt : ∀ rest : List Candidate, ¬ rest.isEmpty = true →
      (if policy.preferIpv6 then (firstOf .inet6 rest).getD 0 else 0) < rest.length := by
    intro rest nonempty
    have positive : 0 < rest.length := by
      cases rest with
      | nil => simp at nonempty
      | cons _ _ => simp
    split
    · cases found : firstOf .inet6 rest with
      | none => simpa using positive
      | some k => simpa using firstOf_lt found
    · exact positive
  simp only [select] at h
  split at h
  · simp at h
  · rename_i nonempty
    have bound := preferredLt _ nonempty
    rw [List.length_drop] at bound
    cases force : policy.force with
    | none =>
      rw [force] at h
      simp only [Option.some.injEq] at h
      omega
    | some forced =>
      rw [force] at h
      obtain ⟨k, found, rfl⟩ := Option.map_eq_some_iff.mp h
      have := firstOf_lt found
      simp only [List.length_drop] at this
      omega

end Resolution
end StreamTransport
