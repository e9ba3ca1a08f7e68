import Firewall.Address.Basic
import Firewall.Value

/-!
# Intents

An intent is a statement of a policy as its author writes it.  Some fields may hold alternatives:
hosts and protocols a list, ports a list of lists of any depth.  Host names and service names stand
for addresses and numbers that are not known yet.
-/

namespace Firewall

/-- What a rule does with a packet. -/
inductive Action where
  | pass
  | block
  deriving DecidableEq, Repr

namespace Action

/-- The words for the actions. -/
def words : List (String × Action) := [("pass", .pass), ("block", .block)]

def name : Action → String
  | .pass => "pass"
  | .block => "block"

end Action

/-- The way of a packet, seen from the host. -/
inductive Direction where
  | incoming
  | outgoing
  /-- Through the host. -/
  | forwarded
  deriving DecidableEq, Repr

namespace Direction

/-- The words for the directions. -/
def words : List (String × Direction) :=
  [("in", .incoming), ("out", .outgoing), ("fwd", .forwarded)]

def name : Direction → String
  | .incoming => "in"
  | .outgoing => "out"
  | .forwarded => "fwd"

end Direction

namespace Intent

/-- A host: an address, or a text that names one or several. -/
inductive Host where
  | address (address : Address)
  | named (name : String)
  deriving DecidableEq

/-- The hosts of an endpoint. -/
inductive Hosts where
  | absent
  | one (host : Host)
  | many (hosts : List Host)
  deriving DecidableEq

/-- The ports of an endpoint.  The items of a list are looked at only when they are resolved. -/
inductive Ports where
  | absent
  | number (number : Int)
  | named (name : String)
  | many (items : List Value)

/-- The protocols of an intent. -/
inductive Protocols where
  | absent
  | one (name : String)
  | many (names : List String)
  deriving DecidableEq, Repr

/-- The source, the destination or the redirect target of an intent. -/
structure Endpoint where
  hosts : Hosts
  ports : Ports

/-- The endpoint that says nothing. -/
def Endpoint.unspecified : Endpoint := ⟨.absent, .absent⟩

/-- The fields of an intent. -/
inductive Field where
  | action
  | returns
  | direction
  | family
  | protocols
  | interface
  | inbound
  | outbound
  | source
  | destination
  | masquerade
  | redirect
  deriving DecidableEq, Repr

/-- The keys of a field in a document, the usual one first. -/
def Field.keys : Field → List String
  | .action => ["action"]
  | .returns => ["return", "return_"]
  | .direction => ["dir"]
  | .family => ["af"]
  | .protocols => ["proto"]
  | .interface => ["on"]
  | .inbound => ["in", "in_"]
  | .outbound => ["out"]
  | .source => ["from", "from_"]
  | .destination => ["to"]
  | .masquerade => ["nat_to"]
  | .redirect => ["rdr_to"]

/-- The fields, in the order in which they are read. -/
def Field.all : List Field :=
  [.action, .returns, .direction, .family, .protocols, .interface, .inbound, .outbound, .source,
    .destination, .masquerade, .redirect]

end Intent

/-- An intent. -/
structure Intent where
  action : Option Action
  /-- The packet goes back to the calling chain. -/
  returns : Bool
  direction : Option Direction
  family : Option FamilyChoice
  protocols : Intent.Protocols
  /-- The interface; a leading exclamation mark negates it. -/
  interface : Option String
  inbound : Option String
  outbound : Option String
  source : Intent.Endpoint
  destination : Intent.Endpoint
  /-- Hosts whose packets leave under the address of the interface. -/
  masquerade : Intent.Hosts
  /-- Where packets are sent instead. -/
  redirect : Intent.Endpoint
  /-- The fields that were given. -/
  given : List Intent.Field

namespace Intent

/-- The family that an intent insists on. -/
def restriction (intent : Intent) : Option Family :=
  intent.family.bind FamilyChoice.restriction

/-- No field was given. -/
def isEmpty (intent : Intent) : Bool := intent.given.isEmpty

end Intent

end Firewall
