import Firewall.Address.Printer
import Firewall.Rule.Basic

/-!
# Rule lines

A rule is one line of iptables-restore syntax: the chain it is appended to, its interfaces, its
protocol, its source and destination, and the target it jumps to.
-/

namespace Firewall

/-- The chains of the two tables. -/
inductive Chain where
  | prerouting
  | input
  | forward
  | output
  | postrouting
  deriving DecidableEq, Repr

namespace Chain

def name : Chain → String
  | .prerouting => "PREROUTING"
  | .input => "INPUT"
  | .forward => "FORWARD"
  | .output => "OUTPUT"
  | .postrouting => "POSTROUTING"

/-- The chains of the nat table, in order. -/
def nat : List Chain := [.prerouting, .input, .output, .postrouting]

/-- The chains of the filter table, in order. -/
def filter : List Chain := [.input, .forward, .output]

end Chain

/-- The side of an interface: packets come in or go out through it. -/
inductive InterfaceSide where
  | inbound
  | outbound
  deriving DecidableEq, Repr

def InterfaceSide.option : InterfaceSide → String
  | .inbound => "-i"
  | .outbound => "-o"

/-- The interfaces that a rule matches. -/
inductive InterfaceMatch where
  /-- Any interface. -/
  | any
  /-- Every interface but one. -/
  | allBut (name : String)
  /-- One interface. -/
  | one (side : InterfaceSide) (name : String)
  /-- The interfaces through which a packet passes the host. -/
  | through (inbound outbound : Option String)
  deriving DecidableEq, Repr

/-- The words of an interface match; only the inbound option can be negated. -/
def InterfaceMatch.words : InterfaceMatch → List String
  | .any => []
  | .allBut name => ["!", InterfaceSide.inbound.option, name]
  | .one side name => [side.option, name]
  | .through inbound outbound =>
      inbound.toList.flatMap (fun name => [InterfaceSide.inbound.option, name])
        ++ outbound.toList.flatMap (fun name => [InterfaceSide.outbound.option, name])

/-- Where a rule jumps to. -/
inductive Target where
  | returning
  /-- To the host itself, at another port if one is given. -/
  | redirect (port : Option Port)
  /-- To another host, at another port if one is given. -/
  | destination (host : Address) (port : Option Port)
  | masquerade
  | accept
  | drop
  deriving DecidableEq

/-- The text of another destination.  An IPv6 address is bracketed in front of a port. -/
def destinationText (host : Address) : Option Port → String
  | none => host.text
  | some port =>
      match host.family with
      | .inet => host.text ++ ":" ++ port.text
      | .inet6 => "[" ++ host.text ++ "]:" ++ port.text

def Target.words : Target → List String
  | .returning => ["RETURN"]
  | .redirect none => ["REDIRECT"]
  | .redirect (some port) => ["REDIRECT", "--to-port", port.text]
  | .destination host port => ["DNAT", "--to-destination", destinationText host port]
  | .masquerade => ["MASQUERADE"]
  | .accept => ["ACCEPT"]
  | .drop => ["DROP"]

/-- A text that says something; an empty one counts as absent. -/
def present : Option String → Option String
  | some text => if text.isEmpty then none else some text
  | none => none

namespace Rule

/-- The chain that a rule is appended to. -/
def chain (rule : Rule) : Chain :=
  if rule.redirect.host.isSome then .prerouting
  else if rule.masquerade.isSome then .postrouting
  else
    match rule.direction with
    | .incoming => .input
    | .outgoing => .output
    | .forwarded => .forward

/-- The side on which a rule matches its interface. -/
def side (rule : Rule) : InterfaceSide :=
  if rule.redirect.host.isSome then .inbound
  else if rule.masquerade.isSome ∨ rule.direction = .outgoing then .outbound
  else .inbound

/-- The interfaces that a rule matches.  Only a rule that forwards looks at both sides. -/
def interfaces (rule : Rule) : InterfaceMatch :=
  if rule.direction = .forwarded ∧ !rule.isNat then
    .through (present rule.inbound) (present rule.outbound)
  else
    match present rule.interface with
    | none => .any
    | some name =>
        match name.toList with
        | '!' :: rest => .allBut (String.ofList rest)
        | _ => .one rule.side name

/-- Where a rule jumps to.  A port that the packet has anyway is no other port. -/
def target (rule : Rule) : Target :=
  if rule.returns then .returning
  else
    match rule.redirect.host with
    | some host =>
        if host.isLoopback then .redirect rule.redirect.port
        else if rule.redirect.port = rule.destination.port then .destination host none
        else .destination host rule.redirect.port
    | none =>
        if rule.masquerade.isSome then .masquerade
        else if rule.action = some .pass then .accept
        else .drop

/-- The words of one end of a connection. -/
def endpointWords (hostOption portOption : String) (endpoint : Endpoint) : List String :=
  endpoint.host.toList.flatMap (fun host => [hostOption, host.text])
    ++ endpoint.port.toList.flatMap (fun port => [portOption, port.text])

/-- The words of a rule. -/
def words (rule : Rule) : List String :=
  ["-A", rule.chain.name]
    ++ rule.interfaces.words
    ++ (present rule.protocol).toList.flatMap (fun protocol => ["-p", protocol])
    ++ endpointWords "-s" "--sport" rule.source
    ++ endpointWords "-d" "--dport" rule.destination
    ++ "-j" :: rule.target.words

/-- The line of a rule. -/
def line (rule : Rule) : String := String.intercalate " " rule.words

end Rule

end Firewall
