import StreamTransport.Settings.Basic
import StreamTransport.Settings.Document

/-!
# Settings as documents

Reading takes either spelling at every level, gives an absent field its
default, ignores fields it does not know, and refuses a field whose value does
not fit. Writing spells every structure as a record and leaves out a forced
family, a port and a list of targets that are not there.
-/

set_option autoImplicit false

namespace StreamTransport

open Document

namespace KeepAlive

def fieldNames : List String := ["enabled", "idle_secs", "retries", "interval_secs"]

def read (d : Document) : Option KeepAlive := do
  let fields ← d.fields? fieldNames
  let enabled ← readField fields "enabled" readFlag true
  let idleSecs ← readField fields "idle_secs" readWord 5
  let retries ← readField fields "retries" readWord 3
  let intervalSecs ← readField fields "interval_secs" readWord 2
  return { enabled, idleSecs, retries, intervalSecs }

def write (k : KeepAlive) : Document :=
  record [
    ("enabled", flag k.enabled),
    ("idle_secs", integer k.idleSecs.toNat),
    ("retries", integer k.retries.toNat),
    ("interval_secs", integer k.intervalSecs.toNat)]

end KeepAlive

namespace Alternate

def fieldNames : List String := ["host", "port"]

/-- The host is the one field without a default. -/
def read (d : Document) : Option Alternate := do
  let fields ← d.fields? fieldNames
  let host ← (field? "host" fields).bind readText
  let port ← readField fields "port" (readOptional readPort) none
  return { host, port }

def write (a : Alternate) : Document :=
  record (("host", text a.host) ::
    match a.port with
    | none => []
    | some port => [("port", integer port.toNat)])

end Alternate

namespace IpVersion

def word : IpVersion → String
  | ipv4 => "ipv4"
  | ipv6 => "ipv6"

def ofWord? (s : String) : Option IpVersion := [ipv4, ipv6].find? fun f => f.word == s

/-- A word, or a record whose only field is named by the word and holds nothing. -/
def read : Document → Option IpVersion
  | text s => ofWord? s
  | record [(s, null)] => ofWord? s
  | _ => none

def write (f : IpVersion) : Document := text f.word

end IpVersion

namespace Settings

def fieldNames : List String :=
  ["keepalive", "ack_timeout_ms", "prefer_ipv6", "force_family", "gateway_enabled",
    "remote_assistance", "targets"]

def read (d : Document) : Option Settings := do
  let fields ← d.fields? fieldNames
  let keepAlive ← readField fields "keepalive" KeepAlive.read {}
  let ackTimeoutMs ← readField fields "ack_timeout_ms" readWord 9000
  let preferIpv6 ← readField fields "prefer_ipv6" readFlag false
  let forceFamily ← readField fields "force_family" (readOptional IpVersion.read) none
  let gatewayEnabled ← readField fields "gateway_enabled" readFlag false
  let remoteAssistance ← readField fields "remote_assistance" readFlag false
  let targets ← readField fields "targets" (readList Alternate.read) []
  return {
    keepAlive, ackTimeoutMs, preferIpv6, forceFamily, gatewayEnabled, remoteAssistance, targets }

def forceFamilyField : Option IpVersion → List (String × Document)
  | none => []
  | some forced => [("force_family", forced.write)]

def targetsField : List Alternate → List (String × Document)
  | [] => []
  | targets => [("targets", list (targets.map Alternate.write))]

def write (s : Settings) : Document :=
  record ([
    ("keepalive", s.keepAlive.write),
    ("ack_timeout_ms", integer s.ackTimeoutMs.toNat),
    ("prefer_ipv6", flag s.preferIpv6)] ++
    forceFamilyField s.forceFamily ++ [
    ("gateway_enabled", flag s.gatewayEnabled),
    ("remote_assistance", flag s.remoteAssistance)] ++
    targetsField s.targets)

end Settings
end StreamTransport
