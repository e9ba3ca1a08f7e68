import Firewall.Address.Parser
import Firewall.Intent.Reader

/-!
# Policies

A policy gives names to addresses and a list of intents to each host it protects.  Every name of a
policy has at least one address, and all its addresses can be read.
-/

namespace Firewall

open Schema

/-- What a policy says of one host. -/
structure HostPolicy where
  /-- What happens to packets that no rule matches. -/
  default : Action
  /-- The family to which the rules are restricted. -/
  scope : Option FamilyChoice
  intents : List Intent

/-- A policy. -/
structure Policy where
  names : Table String (List String)
  hosts : Table String HostPolicy

/-- The members of an object, each read in the same way.  A key has no halves in a path. -/
def Schema.dictOf {α : Type} (read : Value → Checked α) : Value → Checked (List (String × α))
  | .object members => all members
  | _ => .issue .dictType
where
  /-- Reads all members in order. -/
  all : Members → Checked (List (String × α))
    | [] => .valid []
    | (key, value) :: rest =>
        let step := Step.key (Text.replaceHalves key)
        (fun value rest => (key, value) :: rest) <$> (read value).under step <*> all rest

/-- What is wrong with the addresses of a name. -/
inductive NameFault where
  | noAddresses (name : String)
  | badAddress (name address : String)
  deriving DecidableEq, Repr

def NameFault.message : NameFault → String
  | .noAddresses name => "Name '" ++ name ++ "' has no addresses"
  | .badAddress name address => "Invalid address '" ++ address ++ "' for name '" ++ name ++ "'"

/-- What is wrong with a name, if anything is. -/
def nameFault? (name : String) (addresses : List String) : Option NameFault :=
  if addresses.isEmpty then some (.noAddresses name)
  else (addresses.find? fun text => (Address.read? text).isNone).map (.badAddress name)

/-- What is wrong with some names.  The first name with a fault speaks for all. -/
def namesFault? (names : List (String × List String)) : Option NameFault :=
  names.findSome? fun (name, addresses) => nameFault? name addresses

/-- Lists of texts by name, whether or not they are addresses. -/
def listsOf : Value → Checked (List (String × List String)) :=
  dictOf (listOf text)

/-- The names of a policy. -/
def namesOf (value : Value) : Checked (List (String × List String)) :=
  (listsOf value).further fun names =>
    match namesFault? names with
    | some fault => .issue (.refused fault.message)
    | none => .valid names

namespace HostPolicy

def ofValue : Value → Checked HostPolicy :=
  model "HostPolicy" fun members =>
    mk
      <$> field ["policy"] (.valid .block) (oneOf Action.words) members
      <*> nullable ["scope"] (oneOf FamilyChoice.words) members
      <*> field ["rules"] (.valid []) (listOf Intent.ofValue) members
      <* noOthers [["policy"], ["scope"], ["rules"]] members

/-- The family to which the rules of a host are restricted. -/
def restriction (host : HostPolicy) : Option Family :=
  host.scope.bind FamilyChoice.restriction

end HostPolicy

namespace Policy

def ofValue : Value → Checked Policy :=
  model "PolicyConfig" fun members =>
    (fun names hosts => mk (Table.ofList names) (Table.ofList hosts))
      <$> field ["names"] (.valid []) namesOf members
      <*> field ["hosts"] (.valid []) (dictOf HostPolicy.ofValue) members
      <* noOthers [["names"], ["hosts"]] members

/-- Why a document is not read as a policy. -/
inductive Fault where
  | invalid (issues : Invalid)
  /-- The message about a name has no UTF-8 form. -/
  | notEncoded (found : Text.Unencodable)

/-- What keeps the message about the names of a document from having a UTF-8 form. -/
def unencodable? (document : Value) : Option Text.Unencodable :=
  match (document.member? "names").map listsOf with
  | some (.valid names) => (namesFault? names).bind (Text.unencodable? ·.message)
  | _ => none

/-- Reads a policy, or lists the issues of its document.  An issue that cannot be told goes before
all others. -/
def read (document : Value) : Except Fault Policy :=
  match unencodable? document with
  | some found => .error (.notEncoded found)
  | none => ((ofValue document).toExcept "PolicyConfig").mapError .invalid

end Policy

end Firewall
