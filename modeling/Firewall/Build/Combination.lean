import Firewall.Rule.Reader

/-!
# Combinations

An intent whose names are resolved has lists of alternatives in eight fields.  A combination takes
one of each; together with the rest of the intent it makes a rule, unless its addresses are of two
families.
-/

namespace Firewall

/-- A port as it is resolved, not yet known to be one. -/
inductive PortCandidate where
  | number (number : Int)
  | range (content : String)
  deriving DecidableEq, Repr

/-- The value that a document would give for a port. -/
def PortCandidate.value : PortCandidate → Value
  | .number value => .int value
  | .range content => .text content

/-- One choice for each of the eight fields. -/
structure Combination where
  protocol : Option String
  sourceHost : Option Address
  sourcePort : Option PortCandidate
  destinationHost : Option Address
  destinationPort : Option PortCandidate
  masquerade : Option Address
  redirectHost : Option Address
  redirectPort : Option PortCandidate
  deriving DecidableEq

/-- The choices for each of the eight fields. -/
structure Alternatives where
  protocols : List (Option String)
  sourceHosts : List (Option Address)
  sourcePorts : List (Option PortCandidate)
  destinationHosts : List (Option Address)
  destinationPorts : List (Option PortCandidate)
  masquerades : List (Option Address)
  redirectHosts : List (Option Address)
  redirectPorts : List (Option PortCandidate)

/-- All combinations; the last field varies fastest. -/
def Alternatives.combinations (alternatives : Alternatives) : List Combination :=
  alternatives.protocols.flatMap fun protocol =>
  alternatives.sourceHosts.flatMap fun sourceHost =>
  alternatives.sourcePorts.flatMap fun sourcePort =>
  alternatives.destinationHosts.flatMap fun destinationHost =>
  alternatives.destinationPorts.flatMap fun destinationPort =>
  alternatives.masquerades.flatMap fun masquerade =>
  alternatives.redirectHosts.flatMap fun redirectHost =>
  alternatives.redirectPorts.map fun redirectPort =>
    { protocol, sourceHost, sourcePort, destinationHost, destinationPort, masquerade, redirectHost,
      redirectPort }

namespace Combination

open Schema

/-- The addresses of a combination: source, destination, masquerade and redirect. -/
def hosts (combination : Combination) : List Address :=
  [combination.sourceHost, combination.destinationHost, combination.masquerade,
    combination.redirectHost].filterMap id

def endpoint (field : Intent.Field) (host : Option Address) (port : Option PortCandidate) :
    Checked Rule.Endpoint :=
  let checkedPort : Checked (Option Port) :=
    match port with
    | none => .valid none
    | some candidate => some <$> (Rule.portOf candidate.value).under (.key "port")
  (Rule.Endpoint.mk host <$> checkedPort).under (.key (field.keys.headD ""))

/-- The direction of an intent; a rule cannot do without. -/
def direction (intent : Intent) : Checked Direction :=
  match intent.direction with
  | some direction => .valid direction
  | none =>
      (Checked.issue (.notAmong (Direction.words.map Prod.fst))).under
        (.key (Intent.Field.direction.keys.headD ""))

/-- The parts of the rule that a combination of an intent makes. -/
def parts (intent : Intent) (combination : Combination) (family : Option Family) : Rule.Parts where
  action := .valid intent.action
  returns := .valid intent.returns
  direction := direction intent
  family := family
  protocol := .valid combination.protocol
  interface := .valid intent.interface
  inbound := .valid intent.inbound
  outbound := .valid intent.outbound
  source := endpoint .source combination.sourceHost combination.sourcePort
  destination := endpoint .destination combination.destinationHost combination.destinationPort
  masquerade := .valid combination.masquerade
  redirect := endpoint .redirect combination.redirectHost combination.redirectPort
  others := .valid ()

/-- The family of a combination: the one that the intent insists on, or that of the addresses. -/
def family (intent : Intent) (combination : Combination) :
    Except FamilyConflict (Option Family) :=
  commonFamily (intent.restriction.toList ++ combination.hosts.map Address.family)

def rule (intent : Intent) (combination : Combination) : Except Rule.Fault Rule :=
  match combination.family intent with
  | .error conflict => .error (.conflict conflict)
  | .ok family => Rule.ofParts (combination.parts intent family)

end Combination

end Firewall
