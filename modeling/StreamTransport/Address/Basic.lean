import StreamTransport.Address.Inet
import StreamTransport.Text

/-!
# Socket addresses

The four families a stream socket can have here, with their numbers in the
kernel's socket interface and their names in messages. An address of any of them
has its text in messages and its textual internet address. A Unix endpoint is
local and reports the loopback address; a VSOCK endpoint has no internet form.
-/

set_option autoImplicit false

namespace StreamTransport

inductive Family where
  | inet
  | inet6
  | unix
  | vsock
  deriving DecidableEq, Repr

namespace Family

def number : Family → Nat
  | unix => 1
  | inet => 2
  | inet6 => 10
  | vsock => 40

def ofNumber? (n : Int) : Option Family :=
  if n = 1 then some unix
  else if n = 2 then some inet
  else if n = 10 then some inet6
  else if n = 40 then some vsock
  else none

def name : Family → String
  | inet => "IPv4"
  | inet6 => "IPv6"
  | unix => "Unix"
  | vsock => "VSOCK"

def ofName? (s : String) : Option Family :=
  [inet, inet6, unix, vsock].find? fun family => family.name == s

theorem ofNumber?_number (family : Family) : ofNumber? family.number = some family := by
  cases family <;> rfl

theorem number_of_ofNumber? {n : Int} {family : Family} (h : ofNumber? n = some family) :
    (family.number : Int) = n := by
  grind [ofNumber?, number]

theorem ofName?_name (family : Family) : ofName? family.name = some family := by
  cases family <;> decide

end Family

/-- A path in the file system. A socket without a name has the empty path. -/
structure UnixAddress where
  path : Bytes
  deriving DecidableEq

/-- A context id and a port between a virtual machine and its host. -/
structure VsockAddress where
  cid : UInt32
  port : UInt32
  deriving DecidableEq

def UnixAddress.text (a : UnixAddress) : String := Text.lossy a.path

def VsockAddress.text (a : VsockAddress) : String :=
  "vsock://" ++ toString a.cid.toNat ++ ":" ++ toString a.port.toNat

inductive SocketAddress where
  | inet (a : InetAddress)
  | inet6 (a : Inet6Address)
  | unix (a : UnixAddress)
  | vsock (a : VsockAddress)
  deriving DecidableEq

namespace SocketAddress

def family : SocketAddress → Family
  | inet _ => .inet
  | inet6 _ => .inet6
  | unix _ => .unix
  | vsock _ => .vsock

def text : SocketAddress → String
  | inet a => a.text
  | inet6 a => a.text
  | unix a => "unix:" ++ a.text
  | vsock a => a.text

end SocketAddress

/-- A textual internet address, and whether it is of version 6. -/
structure IpText where
  ip : String
  ipv6 : Bool
  deriving DecidableEq, Repr

def SocketAddress.ipText? : SocketAddress → Option IpText
  | inet a => some ⟨a.ip.text, false⟩
  | inet6 a => some ⟨a.ip.text, true⟩
  | unix _ => some ⟨Ipv4.loopback.text, false⟩
  | vsock _ => none

end StreamTransport
