import Firewall.Intent.Basic
import Firewall.Schema.Field

/-!
# Reading intents

An intent as a document gives it.  Texts stay texts, whether they are addresses, numbers or names.
-/

namespace Firewall

open Schema

/-- The address that a number or a truth value stands for. -/
def Address.ofNumber? : Value → Option Address
  | .int number => ofInt? number
  | .bool value => ofInt? (if value then 1 else 0)
  | _ => none

/-- The issues of a value that is an address of neither family. -/
def noAddress : List Issue :=
  [⟨.ipv4Interface, [.key "ipv4"]⟩, ⟨.ipv6Interface, [.key "ipv6"]⟩]

/-- The words for the choices of family. -/
def FamilyChoice.words : List (String × FamilyChoice) :=
  FamilyChoice.all.map fun choice => (choice.name, choice)

namespace FamilyChoice

/-- The choice that a value makes. -/
def ofValue? : Value → Option FamilyChoice
  | .text word => ofName? word
  | _ => none

/-- The family that a value insists on; null insists on none. -/
def restrictionOf? : Value → Option (Option Family)
  | .null => some none
  | value => (ofValue? value).map restriction

/-- What is said of a value that makes no choice. -/
def refusal (value : Value) : String :=
  value.shown ++ " is not a valid AddressFamily"

end FamilyChoice

namespace Intent

/-- A text, or a number that stands for an address. -/
def Host.ofValue (value : Value) : Checked Host :=
  match value, Address.ofNumber? value with
  | .text content, _ => .valid (.named content)
  | _, some found => .valid (.address found)
  | _, none => .invalid (noAddress ++ [⟨.stringType, [.key "str"]⟩])

/-- One host or a list of hosts. -/
def Hosts.ofValue (value : Value) : Checked Hosts :=
  match value with
  | .null => .valid .absent
  | _ =>
      (one <$> Host.ofValue value).orElse
        ((many <$> listOf Host.ofValue value).under (.key "list[host]"))

/-- A number, a text or a list of anything. -/
def Ports.ofValue (value : Value) : Checked Ports :=
  match value with
  | .null => .valid .absent
  | .text content => .valid (.named content)
  | .list items => .valid (.many items)
  | _ =>
      match integer value with
      | .valid found => .valid (.number found)
      | .invalid issues =>
          (Checked.invalid issues).under (.key "int")
            |>.orElse ((Checked.issue .stringType).under (.key "str"))
            |>.orElse ((Checked.issue .listType).under (.key "list[any]"))

/-- One protocol or a list of protocols. -/
def Protocols.ofValue (value : Value) : Checked Protocols :=
  match value with
  | .null => .valid .absent
  | _ =>
      ((one <$> text value).under (.key "str")).orElse
        ((many <$> listOf text value).under (.key "list[str]"))

/-- An object with a host and a port. -/
def Endpoint.ofValue : Value → Checked Endpoint :=
  model "Endpoint" fun members =>
    Endpoint.mk
      <$> field ["host"] (.valid .absent) Hosts.ofValue members
      <*> field ["port"] (.valid .absent) Ports.ofValue members
      <* noOthers [["host"], ["port"]] members

/-- The fields that are given. -/
def Field.givenIn (members : Members) : List Field :=
  all.filter fun field => (given? field.keys members).isSome

/-- Reads the members of an object as an intent. -/
def ofMembers (members : Members) : Checked Intent :=
  let endpoint (field : Field) : Checked Endpoint :=
    Schema.field field.keys (.valid .unspecified) Endpoint.ofValue members
  let word (field : Field) : Checked (Option String) := nullable field.keys text members
  (mk
    <$> nullable Field.action.keys (oneOf Action.words) members
    <*> field Field.returns.keys (.valid false) truth members
    <*> nullable Field.direction.keys (oneOf Direction.words) members
    <*> nullable Field.family.keys (oneOf FamilyChoice.words) members
    <*> field Field.protocols.keys (.valid .absent) Protocols.ofValue members
    <*> word .interface
    <*> word .inbound
    <*> word .outbound
    <*> endpoint .source
    <*> endpoint .destination
    <*> field Field.masquerade.keys (.valid .absent) Hosts.ofValue members
    <*> endpoint .redirect
    <*> .valid (Field.givenIn members))
    <* noOthers (Field.all.map Field.keys) members

def ofValue : Value → Checked Intent :=
  model "Intent" ofMembers

end Intent

end Firewall
