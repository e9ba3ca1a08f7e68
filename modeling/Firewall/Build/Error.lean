import Firewall.Address.Parser
import Firewall.Intent.Reader

/-!
# Errors of a build

Why an intent has no rules.  Some errors are the fault of a policy and its surroundings, and are
reported for the host they concern; the others end the program's work.
-/

namespace Firewall

/-- Why a name has no addresses. -/
inductive LookupFailure where
  /-- Nobody knows the name. -/
  | unknownHost
  /-- The system answers with an empty list. -/
  | noAddresses
  /-- The system fails with a code and a text. -/
  | system (code : Int) (text : String)
  /-- The system cannot be asked for such a name. -/
  | badName (text : String)
  deriving DecidableEq, Repr

def LookupFailure.reason : LookupFailure → String
  | .unknownHost => "unknown host"
  | .noAddresses => "no addresses"
  | .system code text => "[Errno " ++ toString code ++ "] " ++ text
  | .badName text => text

/-- Why an intent has no rules. -/
inductive BuildError where
  /-- A host name cannot be resolved. -/
  | unresolved (host : String) (failure : LookupFailure)
  /-- A port names no service. -/
  | unknownService (name : String)
  /-- An intent or a rule is not valid. -/
  | invalid (invalid : Schema.Invalid)
  /-- The system answers with a text that is no address. -/
  | badAddress (malformed : Address.Malformed)
  /-- A port is written in digits that make no number. -/
  | badNumber (fault : Integer.Fault)
  /-- A port is neither a number nor a text. -/
  | badPort (kind : Value.Kind)
  /-- The intent is not an object. -/
  | badIntent (kind : Value.Kind)
  /-- A value is no choice of family. -/
  | badFamily (value : Value)

namespace BuildError

def message : BuildError → String
  | .unresolved host failure =>
      "cannot resolve \"" ++ host ++ "\""
        ++ (if failure.reason.isEmpty then "" else ": " ++ failure.reason)
  | .unknownService name => "unknown service \"" ++ name ++ "\""
  | .invalid faults => faults.message
  | .badAddress malformed => malformed.message
  | .badNumber fault => fault.message
  | .badPort kind => "'" ++ kind.name ++ "' object has no attribute 'isdigit'"
  | .badIntent kind => "'" ++ kind.name ++ "' object has no attribute 'is_empty'"
  | .badFamily value => FamilyChoice.refusal value

/-- The error concerns one host of a policy and is reported for it. -/
def isReported : BuildError → Bool
  | .unresolved .. | .unknownService _ | .invalid _ => true
  | _ => false

end BuildError

/-- The choice of family that a value makes. -/
def FamilyChoice.read (value : Value) : Except BuildError FamilyChoice :=
  match ofValue? value with
  | some choice => .ok choice
  | none => .error (.badFamily value)

/-- The family that a value insists on. -/
def FamilyChoice.readRestriction (value : Value) : Except BuildError (Option Family) :=
  match restrictionOf? value with
  | some restriction => .ok restriction
  | none => .error (.badFamily value)

end Firewall
