import StreamTransport.Scenario.Step

/-!
# What no step mentions

The private directory of a scenario and the ports of its endpoints are its own:
they are chosen so that no step spells them.
-/

set_option autoImplicit false

namespace StreamTransport.Scenario

def occursIn (word : Bytes) : Bytes → Bool
  | [] => word.isEmpty
  | b :: rest => word.isPrefixOf (b :: rest) || occursIn word rest

def numeral (n : Nat) : Bytes := Text.utf8 (toString n)

def Destination.mentions : Destination → List Bytes
  | .endpoint _ => []
  | .fixed (.unix a) => [a.path]
  | .fixed address => [Text.utf8 address.text]

def mentionsOfHosts (hosts : HostTable) : List Bytes :=
  hosts.flatMap fun host => host.2.flatMap fun spec => spec.destination.mentions

def mentionsOfTargets (targets : List Alternate) : List Bytes :=
  targets.flatMap fun target =>
    Text.utf8 target.host :: (target.port.map fun port => numeral port.toNat).toList

def Sequence.mentions (q : Sequence) : List Bytes :=
  let endpoint := match q.endpoint with
    | .spelled text => [Text.utf8 text]
    | .privateFile _ => []
  match q.port with
  | .number port => numeral port.toNat :: endpoint
  | _ => endpoint

/-- Texts, paths and numbers in which a step could spell a directory or a port. -/
def Step.mentions : Step → List Bytes
  | .connector _ settings hosts _ => mentionsOfTargets settings.targets ++ mentionsOfHosts hosts
  | .systemConnector _ settings => mentionsOfTargets settings.targets
  | .openSocket _ _ q => q.mentions
  | .openLayer _ _ q => q.mentions
  | .resolvable _ host => [Text.utf8 host]
  | .race _ hosts targets fallbackPort _ =>
    numeral fallbackPort.toNat :: mentionsOfTargets targets ++ mentionsOfHosts hosts
  | .connectWithin _ _ target _ _ _ => target.mentions
  | .connect _ _ target _ => target.mentions
  | .startConnect _ _ target => target.mentions
  | _ => []

/-- The first number from `start` on that is free, in strides; each mention can spoil as many as
it has bytes. -/
def firstFree (mentions : List Bytes) (start stride : Nat) (isFree : Nat → Bool) : Nat :=
  let attempts := mentions.foldl (fun n mention => n + mention.length) 1
  (((List.range attempts).map fun i => start + i * stride).find? isFree).getD start

/-- The name of a directory that no step mentions. -/
def freshName (steps : List Step) : String :=
  let mentions := steps.flatMap Step.mentions
  let name (n : Nat) : String := "private-" ++ toString n
  name (firstFree mentions 1000 1 fun n => !mentions.any (occursIn (Text.utf8 (name n))))

/-- The first of as many ports as there are steps, none of which a step mentions. -/
def freshPort (steps : List Step) : Nat :=
  let mentions := steps.flatMap Step.mentions
  let spare (port : Nat) : Bool := !mentions.any (occursIn (numeral port))
  firstFree mentions 40001 steps.length fun port =>
    (List.range steps.length).all fun i => spare (port + i)

end StreamTransport.Scenario
