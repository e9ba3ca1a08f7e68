import Firewall.Build.Batch
import Firewall.Expansion.Document
import Firewall.Port
import Firewall.Resolver
import Firewall.Services

/-!
# Building rules from intents

A factory knows how names are resolved.  It resolves all references of an intent, one after the
other, then gives a verdict on every combination of alternatives.  The first reference that fails
ends the build before any combination is looked at.
-/

namespace Firewall

/-- What names stand for. -/
structure Factory where
  resolver : Resolver
  services : Services

namespace Intent

/-- The hosts in order; an absent one is one alternative. -/
def Hosts.toList : Hosts → List (Option Host)
  | .absent => [none]
  | .one host => [some host]
  | .many hosts => hosts.map some

/-- The leaves of the ports in order. -/
def Ports.leaves : Ports → List Value
  | .absent => [.null]
  | .number value => [.int value]
  | .named name => [.text name]
  | .many items => (Value.list items).leaves

/-- The protocols in order; an absent one is one alternative. -/
def Protocols.toList : Protocols → List (Option String)
  | .absent => [none]
  | .one name => [some name]
  | .many names => names.map some

end Intent

namespace Factory

/-- The addresses of a host. -/
def resolveHost (factory : Factory) :
    Option Intent.Host → Recorded BuildError (List (Option Address))
  | none => pure [none]
  | some (.address address) => pure [some address]
  | some (.named name) => do return (← factory.resolver.resolve name).map some

/-- The addresses of hosts, in order. -/
def resolveHosts (factory : Factory) (hosts : Intent.Hosts) :
    Recorded BuildError (List (Option Address)) := do
  return (← hosts.toList.mapM factory.resolveHost).flatten

/-- The port that a text stands for: a range, a number in digits, or a service. -/
def portOfText (services : Services) (content : String) : Except BuildError PortCandidate :=
  if isPortRange content then .ok (.range content)
  else if !content.isEmpty && content.toList.all Text.isDigit then
    match Integer.read content with
    | .ok number => .ok (.number number)
    | .error fault => .error (.badNumber fault)
  else
    match services.get? content with
    | some number => .ok (.number number)
    | none => .error (.unknownService content)

/-- The port that a leaf stands for. -/
def portOfLeaf (services : Services) : Value → Except BuildError (Option PortCandidate)
  | .null => .ok none
  | .int number => .ok (some (.number number))
  | .bool value => .ok (some (.number (if value then 1 else 0)))
  | .text content => (portOfText services content).map some
  | leaf => .error (.badPort leaf.kind)

/-- The ports of an endpoint, in order. -/
def resolvePorts (factory : Factory) (ports : Intent.Ports) :
    Recorded BuildError (List (Option PortCandidate)) :=
  Recorded.ofExcept (ports.leaves.mapM (portOfLeaf factory.services))

/-- The alternatives of an intent.  The references are resolved in a fixed order: the endpoints
first, each with its hosts before its ports, and the masquerade hosts last. -/
def resolve (factory : Factory) (intent : Intent) : Recorded BuildError Alternatives := do
  let sourceHosts ← factory.resolveHosts intent.source.hosts
  let sourcePorts ← factory.resolvePorts intent.source.ports
  let destinationHosts ← factory.resolveHosts intent.destination.hosts
  let destinationPorts ← factory.resolvePorts intent.destination.ports
  let redirectHosts ← factory.resolveHosts intent.redirect.hosts
  let redirectPorts ← factory.resolvePorts intent.redirect.ports
  let masquerades ← factory.resolveHosts intent.masquerade
  let protocols := intent.protocols.toList
  return { protocols, sourceHosts, sourcePorts, destinationHosts, destinationPorts, masquerades,
           redirectHosts, redirectPorts }

/-- The batch of an intent under a restriction.  An intent without fields makes no rules. -/
def build (factory : Factory) (intent : Intent) (restriction : Option Family) :
    Recorded BuildError Batch := do
  if intent.isEmpty then return .empty
  let alternatives ← factory.resolve intent
  let (verdicts, invalid) := Verdict.onAll intent restriction alternatives.combinations
  Recorded.note (verdicts.filterMap Verdict.event?)
  match invalid with
  | some invalid => throw (.invalid invalid)
  | none => return .ofVerdicts verdicts

/-- The intent of a document, if it holds one. -/
def readIntent (document : Value) : Except BuildError (Option Intent) :=
  if document.isBlank then .ok none
  else
    match document with
    | .object members =>
        match (Intent.ofMembers members).toExcept "Intent" with
        | .ok intent => .ok (some intent)
        | .error invalid => .error (.invalid invalid)
    | _ => .error (.badIntent document.kind)

/-- The batch of a document.  The restriction is looked at only if there is an intent. -/
def buildDocument (factory : Factory) (document : Value)
    (restriction : Except BuildError (Option Family)) : Recorded BuildError Batch := do
  match ← Recorded.ofExcept (readIntent document) with
  | none => return .empty
  | some intent =>
      if intent.isEmpty then return .empty
      factory.build intent (← Recorded.ofExcept restriction)

end Factory

end Firewall
