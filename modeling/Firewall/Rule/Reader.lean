import Firewall.Address.Parser
import Firewall.Intent.Reader
import Firewall.Rule.Basic

/-!
# Reading rules

A rule is put together from parts that have each been checked.  The family comes first: the one
requested and those of the hosts have to agree.  Then all issues of the parts are collected, and
only a rule without any is asked whether it has a target.
-/

namespace Firewall.Rule

open Schema

/-- Why there is no rule. -/
inductive Fault where
  | conflict (conflict : FamilyConflict)
  | invalid (invalid : Invalid)

def greatestPort : Nat := 65535

/-- A number that is a port. -/
def portNumber (value : Value) : Checked Port :=
  (integer value).further fun number =>
    if small : number < 0 then .issue (.belowLeast 0)
    else if large : greatestPort < number then .issue (.aboveGreatest greatestPort)
    else .valid (.number ⟨number.toNat, by simp only [greatestPort] at large; omega⟩)

/-- The pattern that a range follows. -/
def rangePattern : String := "^\\d+:\\d+$"

def portRange : Value → Checked Port
  | .text content =>
      content |> wholeText fun content =>
        if valid : isRange content.toList = true then .valid (.range content valid)
        else .issue (.patternMismatch rangePattern)
  | _ => .issue .stringType

/-- A number or a range; a text that is a range stays as it is. -/
def portOf (value : Value) : Checked Port :=
  match portRange value with
  | .valid port => .valid port
  | .invalid issues =>
      ((portNumber value).under (.key "constrained-int")).orElse
        ((Checked.invalid issues).under (.key "constrained-str"))

/-- An address: a text that is one as it stands, or a number. -/
def addressOf (value : Value) : Checked Address :=
  let address? : Option Address :=
    match value with
    | .text content => Address.parse? content.toList
    | _ => Address.ofNumber? value
  match address? with
  | some address => .valid address
  | none => .invalid noAddress

/-- An object with a host and a port. -/
def endpointOf : Value → Checked Endpoint :=
  model "RuleEndpoint" fun members =>
    Endpoint.mk
      <$> nullable ["host"] addressOf members
      <*> nullable ["port"] portOf members
      <* noOthers [["host"], ["port"]] members

/-- The parts of a rule, each checked on its own. -/
structure Parts where
  action : Checked (Option Action)
  returns : Checked Bool
  direction : Checked Direction
  family : Option Family
  protocol : Checked (Option String)
  interface : Checked (Option String)
  inbound : Checked (Option String)
  outbound : Checked (Option String)
  source : Checked Endpoint
  destination : Checked Endpoint
  masquerade : Checked (Option Address)
  redirect : Checked Endpoint
  /-- The keys that belong to no field. -/
  others : Checked Unit

def Parts.fields (parts : Parts) : Checked Fields :=
  Fields.mk
    <$> parts.action
    <*> parts.returns
    <*> parts.direction
    <*> .valid parts.family
    <*> parts.protocol
    <*> parts.interface
    <*> parts.inbound
    <*> parts.outbound
    <*> parts.source
    <*> parts.destination
    <*> parts.masquerade
    <*> parts.redirect
    <* parts.others

/-- The rule with some fields, if they make one. -/
def ofFields (fields : Fields) : Checked Rule :=
  if targeted : fields.hasTarget = true then
    if redirected : fields.redirectComplete = true then
      .valid { fields with targeted, redirected }
    else .issue (.refused "rdr_to.port requires rdr_to.host")
  else .issue (.refused "action is required unless the rule returns or translates")

def ofParts (parts : Parts) : Except Fault Rule :=
  match (parts.fields.further ofFields).toExcept "Rule" with
  | .ok rule => .ok rule
  | .error invalid => .error (.invalid invalid)

/-! ## Rules of a document -/

/-- The family that a value insists on, or why it makes no choice. -/
def requested (value : Value) : Except IssueKind (Option Family) :=
  match FamilyChoice.restrictionOf? value with
  | some restriction => .ok restriction
  | none => .error (.refused (FamilyChoice.refusal value))

/-- The family of a host that is an address with blanks around it.  Other values have none. -/
def familyOfHost? : Value → Option Family
  | .text content => (Address.read? content).map Address.family
  | _ => none

/-- The host values of a rule, as they are given: source, destination, masquerade, redirect. -/
def hostValues (members : Members) : List Value :=
  let valueOf (field : Intent.Field) : Value :=
    ((given? field.keys members).map Prod.snd).getD .null
  let hostOf (endpoint : Value) : Value := (endpoint.member? "host").getD .null
  [hostOf (valueOf .source), hostOf (valueOf .destination), valueOf .masquerade,
    hostOf (valueOf .redirect)]

/-- The parts that the members of an object give. -/
def partsOf (members : Members) (family : Option Family) : Parts :=
  let word (field : Intent.Field) : Checked (Option String) := nullable field.keys text members
  let endpoint (field : Intent.Field) : Checked Endpoint :=
    Schema.field field.keys (.valid .unspecified) endpointOf members
  { action := nullable Intent.Field.action.keys (oneOf Action.words) members
    returns := field Intent.Field.returns.keys (.valid false) truth members
    direction := required Intent.Field.direction.keys (oneOf Direction.words) members
    family
    protocol := word .protocols
    interface := word .interface
    inbound := word .inbound
    outbound := word .outbound
    source := endpoint .source
    destination := endpoint .destination
    masquerade := nullable Intent.Field.masquerade.keys addressOf members
    redirect := endpoint .redirect
    others := noOthers (Intent.Field.all.map Intent.Field.keys) members }

/-- Reads the members of an object as a rule. -/
def ofMembers (members : Members) : Except Fault Rule :=
  match requested ((valueOf? "af" members).getD .null) with
  | .error kind => .error (.invalid ⟨"Rule", [⟨kind, []⟩]⟩)
  | .ok requested =>
      match commonFamily (requested.toList ++ (hostValues members).filterMap familyOfHost?) with
      | .error conflict => .error (.conflict conflict)
      | .ok family =>
          if hasWholeKeys members then ofParts (partsOf members family)
          else .error (.invalid ⟨"Rule", [⟨.stringUnicode, []⟩]⟩)

/-- Reads a rule. -/
def ofValue : Value → Except Fault Rule
  | .object members => ofMembers members
  | _ => .error (.invalid ⟨"Rule", [⟨.modelType "Rule", []⟩]⟩)

end Firewall.Rule
