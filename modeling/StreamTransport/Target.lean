import StreamTransport.Address.Basic
import StreamTransport.Error.Connect
import StreamTransport.Text

/-!
# What an endpoint names

A leading slash names a path. A leading bar hands in a descriptor, which the
port argument numbers. `vsock://` is followed by a context id, and the port
argument is the port there. Everything else is a host name to be resolved.
-/

set_option autoImplicit false

namespace StreamTransport

inductive Target where
  | unix (address : UnixAddress)
  | external (descriptor : Nat)
  | vsock (address : VsockAddress)
  | host (name : String) (port : UInt16)
  deriving DecidableEq

namespace Target

/-- Why an endpoint and its port name nothing. -/
inductive Fault where
  | descriptorOutOfRange (port : UInt32)
  | badContextId (endpoint : String)
  | emptyHost
  | portOutOfRange (port : UInt32)
  deriving DecidableEq, Repr

def Fault.message : Fault → String
  | descriptorOutOfRange port => "descriptor " ++ toString port.toNat ++ " out of range"
  | badContextId endpoint => "bad VSOCK context id in '" ++ endpoint ++ "'"
  | emptyHost => "empty host name"
  | portOutOfRange port => "port " ++ toString port.toNat ++ " out of range"

def Fault.toError (fault : Fault) : ConnectError := .invalidTarget fault.message

/-- A decimal numeral whose value fits 32 bits, behind at most one plus sign. -/
def contextId? : List Char → Option UInt32
  | '+' :: digits => (Text.numeralBelow? 10 0x100000000 digits).map UInt32.ofNat
  | digits => (Text.numeralBelow? 10 0x100000000 digits).map UInt32.ofNat

def vsockScheme : List Char := ['v', 's', 'o', 'c', 'k', ':', '/', '/']

/-- What stands behind a scheme, if the text begins with it. -/
def afterScheme? (scheme cs : List Char) : Option (List Char) :=
  if scheme.isPrefixOf cs then some (cs.drop scheme.length) else none

def ofEndpoint (endpoint : String) (port : UInt32) : Except Fault Target :=
  let cs := endpoint.toList
  match cs with
  | '/' :: _ => .ok (unix ⟨Text.utf8 endpoint⟩)
  | '|' :: _ =>
    if port.toNat < 0x80000000 then .ok (external port.toNat)
    else .error (.descriptorOutOfRange port)
  | [] => .error .emptyHost
  | _ =>
    match afterScheme? vsockScheme cs with
    | some rest =>
      match contextId? rest with
      | some cid => .ok (vsock ⟨cid, port⟩)
      | none => .error (.badContextId endpoint)
    | none =>
      if port.toNat < 0x10000 then .ok (host endpoint (UInt16.ofNat port.toNat))
      else .error (.portOutOfRange port)

end Target
end StreamTransport
