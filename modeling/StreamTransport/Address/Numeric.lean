import StreamTransport.Error.Failure
import StreamTransport.Resolution
import StreamTransport.Text

/-!
# Numeric host names

A numeric name spells an address and needs no lookup. Version 4 is one to four
numerals, each decimal, octal behind `0` or hexadecimal behind `0x`; all but
the last are one byte, and the last fills the bytes that remain. Version 6 is
eight groups of up to four hexadecimal digits, where one `::` stands for the
missing groups and four strict decimal bytes may stand for the last two. A
percent sign and a scope may follow: a decimal number, or an interface name
where the address is local to a link or a node.

A star names this host, version 6 first, if a port is asked for.
-/

set_option autoImplicit false

namespace StreamTransport.Numeric

open Text

/-- The bytes of a number, high byte first. -/
def bytes (width value : Nat) : Bytes := Octets.bigEndian width value

/-- One part of a version 4 name. -/
def part? : List Char → Option Nat
  | '0' :: 'x' :: digits => numeral? 16 digits
  | '0' :: 'X' :: digits => numeral? 16 digits
  | '0' :: digits => numeral? 8 ('0' :: digits)
  | digits => numeral? 10 digits

/-- One byte for each part but the last, which fills what is left of four bytes. -/
def fill? (width : Nat) : List Nat → Option Bytes
  | [] => none
  | [last] => if last < Octets.span width then some (bytes width last) else none
  | first :: rest =>
    match width with
    | 0 => none
    | width + 1 => if first < 256 then (fill? width rest).map (UInt8.ofNat first :: ·) else none

def ipv4? (cs : List Char) : Option Ipv4 := do
  let parts ← (cs.splitOn '.').mapM part?
  if parts.length ≤ 4 then (fill? 4 parts).bind Ipv4.ofList? else none

/-- Four decimal numbers below 256 without a leading zero. -/
def strictByte? (cs : List Char) : Option UInt8 :=
  match cs with
  | '0' :: _ :: _ => none
  | _ => (numeralBelow? 10 256 cs).map UInt8.ofNat

def strictDotted? (cs : List Char) : Option Bytes :=
  let parts := cs.splitOn '.'
  if parts.length = 4 then parts.mapM strictByte? else none

def group? (cs : List Char) : Option Bytes :=
  if cs.length ≤ 4 then (numeral? 16 cs).map (bytes 2) else none

/-- Groups, of which the last may be four bytes with points between. -/
def groups? (dotted : Bool) : List (List Char) → Option Bytes
  | [] => some []
  | [last] => group? last <|> (if dotted then strictDotted? last else none)
  | first :: rest => do return (← group? first) ++ (← groups? dotted rest)

/-- Groups with colons between; an empty text has none. -/
def groupText? (dotted : Bool) (cs : List Char) : Option Bytes :=
  if cs.isEmpty then some [] else groups? dotted (cs.splitOn ':')

/-- What stands before and after the first double colon. -/
def splitGap? : List Char → Option (List Char × List Char)
  | [] => none
  | ':' :: ':' :: rest => some ([], rest)
  | c :: rest => (splitGap? rest).map fun halves => (c :: halves.1, halves.2)

/-- The gap stands for at least one group. -/
def ipv6? (cs : List Char) : Option Ipv6 :=
  match splitGap? cs with
  | none => if cs.isEmpty then none else (groupText? true cs).bind Ipv6.ofList?
  | some (left, right) => do
    let high ← groupText? false left
    let low ← groupText? true right
    let found := high.length + low.length
    if found < 16 then Ipv6.ofList? (high ++ List.replicate (16 - found) 0 ++ low) else none

/-- Addresses that mean something on one link or one node only. -/
def isScoped (ip : Ipv6) : Bool :=
  let first := ip.octets.getD 0 0
  let second := ip.octets.getD 1 0
  (first = 0xFE && second &&& 0xC0 = 0x80) ||
    (first = 0xFF && (second &&& 0x0F = 0x01 || second &&& 0x0F = 0x02))

/-- The names of interfaces are shorter than this. -/
def interfaceNameLimit : Nat := 16

/-- Interfaces and their numbers. -/
abbrev Interfaces := List (List Char × UInt32)

/-- A host without a network has the loopback interface alone. -/
def loopbackOnly : Interfaces := [(['l', 'o'], 1)]

/-- An interface by its name. A colon and what is behind it name an alias of the interface. -/
def interface? (interfaces : Interfaces) (name : List Char) : Option UInt32 :=
  if (Text.utf8 (String.ofList name)).length < interfaceNameLimit then
    interfaces.lookup (name.takeWhile (· != ':'))
  else none

def scope? (interfaces : Interfaces) (ip : Ipv6) (cs : List Char) : Option UInt32 :=
  (if isScoped ip then interface? interfaces cs else none) <|>
    (numeralBelow? 10 0x100000000 cs).map UInt32.ofNat

/-- An address and, behind the first percent sign, its scope. -/
def scopedIpv6? (interfaces : Interfaces) (cs : List Char) : Option (Ipv6 × UInt32) := do
  let ip ← ipv6? (cs.takeWhile (· != '%'))
  match cs.dropWhile (· != '%') with
  | [] => some (ip, 0)
  | _ :: scope => return (ip, ← scope? interfaces ip scope)

/-- The kernel's number for TCP. -/
def tcpProtocol : Int := 6

def candidate (address : SocketAddress) : Candidate :=
  ⟨address, address.family, streamType, tcpProtocol⟩

def loopback6 : Ipv6 := ⟨List.replicate 15 0 ++ [1], rfl⟩

/-- The addresses a numeric name spells. -/
def addresses (interfaces : Interfaces) (cs : List Char) (port : Option UInt16) :
    List SocketAddress :=
  let number := port.getD 0
  if cs = ['*'] then
    if port.isNone then []
    else [.inet6 ⟨loopback6, number, 0, 0⟩, .inet ⟨.loopback, number⟩]
  else
    match ipv4? cs with
    | some ip => [.inet ⟨ip, number⟩]
    | none =>
      match scopedIpv6? interfaces cs with
      | some (ip, scope) => [.inet6 ⟨ip, number, 0, scope⟩]
      | none => []

def resolve (host : String) (port : Option UInt16) (interfaces : Interfaces := loopbackOnly) :
    Except Failure Resolution :=
  let cs := host.toList
  if cs.contains (Char.ofNat 0) then
    .error (.described .invalidInput "host name contains NUL")
  else
    match addresses interfaces cs port with
    | [] =>
      .error (.described .notFound ("getaddrinfo(" ++ host ++ "): Name or service not known"))
    | found => .ok ⟨found.map candidate⟩

end StreamTransport.Numeric
