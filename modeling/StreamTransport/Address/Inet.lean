import StreamTransport.Octets

/-!
# Internet addresses

An address of either version is its octets in network order. Dotted text is
used for version 4. Version 6 is written in lower-case groups, the first
longest run of two or more zero groups as `::`, and an embedded version 4
address in dotted form exactly when the prefix is `::ffff:0:0/96`.
-/

set_option autoImplicit false

namespace StreamTransport

structure Ipv4 where
  octets : Bytes
  length_octets : octets.length = 4
  deriving DecidableEq

structure Ipv6 where
  octets : Bytes
  length_octets : octets.length = 16
  deriving DecidableEq

namespace Ipv4

def ofOctets (a b c d : UInt8) : Ipv4 := ⟨[a, b, c, d], rfl⟩

def ofList? (bs : Bytes) : Option Ipv4 := if h : bs.length = 4 then some ⟨bs, h⟩ else none

def loopback : Ipv4 := ofOctets 127 0 0 1

def unspecified : Ipv4 := ofOctets 0 0 0 0

def dotted (octets : Bytes) : String := ".".intercalate (octets.map fun o => toString o.toNat)

def text (ip : Ipv4) : String := dotted ip.octets

end Ipv4

namespace Ipv6

def ofList? (bs : Bytes) : Option Ipv6 := if h : bs.length = 16 then some ⟨bs, h⟩ else none

def unspecified : Ipv6 := ⟨List.replicate 16 0, rfl⟩

/-- Bytes read in pairs, high byte first. -/
def pairs : Bytes → List Nat
  | high :: low :: rest => (256 * high.toNat + low.toNat) :: pairs rest
  | _ => []

def groups (ip : Ipv6) : List Nat := pairs ip.octets

def isMapped (ip : Ipv6) : Bool :=
  ip.octets.take 12 == List.replicate 10 0 ++ [0xFF, 0xFF]

/-- The number of zero groups in front. -/
def leadingZeros (gs : List Nat) : Nat := (gs.takeWhile (· == 0)).length

/-- The first longest run of zero groups: where it starts and how long it is. -/
def longestZeros (gs : List Nat) : Nat × Nat :=
  (List.range gs.length).foldl (fun best start =>
    let run := leadingZeros (gs.drop start)
    if best.2 < run then (start, run) else best) (0, 0)

def hexGroup (g : Nat) : String := String.ofList (Nat.toDigits 16 g)

def colonSeparated (gs : List Nat) : String := ":".intercalate (gs.map hexGroup)

def text (ip : Ipv6) : String :=
  if ip.isMapped then "::ffff:" ++ Ipv4.dotted (ip.octets.drop 12)
  else
    let gs := ip.groups
    let (start, run) := longestZeros gs
    if run ≤ 1 then colonSeparated gs
    else colonSeparated (gs.take start) ++ "::" ++ colonSeparated (gs.drop (start + run))

end Ipv6

structure InetAddress where
  ip : Ipv4
  port : UInt16
  deriving DecidableEq

structure Inet6Address where
  ip : Ipv6
  port : UInt16
  flowInfo : UInt32
  scope : UInt32
  deriving DecidableEq

def InetAddress.text (a : InetAddress) : String := a.ip.text ++ ":" ++ toString a.port.toNat

/-- A scope that is not zero stands behind a percent sign inside the brackets. -/
def Inet6Address.text (a : Inet6Address) : String :=
  let scope := if a.scope = 0 then "" else "%" ++ toString a.scope.toNat
  "[" ++ a.ip.text ++ scope ++ "]:" ++ toString a.port.toNat

end StreamTransport
