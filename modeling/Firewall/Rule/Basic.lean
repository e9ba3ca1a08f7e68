import Firewall.Intent.Basic
import Firewall.Port

/-!
# Rules

A rule is one concrete decision: every host is one address, every port one number or range.  A rule
always has a target to go to, and a redirect port only together with a redirect host.
-/

namespace Firewall

namespace Rule

/-- One host and one port. -/
structure Endpoint where
  host : Option Address
  port : Option Port
  deriving DecidableEq

/-- The endpoint that says nothing. -/
def Endpoint.unspecified : Endpoint := ⟨none, none⟩

/-- The fields of a rule. -/
structure Fields where
  action : Option Action
  returns : Bool
  direction : Direction
  family : Option Family
  protocol : Option String
  interface : Option String
  inbound : Option String
  outbound : Option String
  source : Endpoint
  destination : Endpoint
  masquerade : Option Address
  redirect : Endpoint
  deriving DecidableEq

/-- The rule translates addresses. -/
def Fields.isNat (fields : Fields) : Bool :=
  fields.redirect.host.isSome || fields.masquerade.isSome

/-- The rule goes somewhere: it acts, returns or translates. -/
def Fields.hasTarget (fields : Fields) : Bool :=
  fields.action.isSome || fields.returns || fields.isNat

/-- A redirect port comes with a redirect host. -/
def Fields.redirectComplete (fields : Fields) : Bool :=
  fields.redirect.port.isNone || fields.redirect.host.isSome

/-- The addresses of the rule: source, destination, masquerade and redirect. -/
def Fields.hosts (fields : Fields) : List Address :=
  [fields.source.host, fields.destination.host, fields.masquerade, fields.redirect.host].filterMap
    id

end Rule

/-- A rule. -/
structure Rule extends Rule.Fields where
  targeted : toFields.hasTarget = true
  redirected : toFields.redirectComplete = true
  deriving DecidableEq

end Firewall
