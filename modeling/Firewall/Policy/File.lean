import Firewall.Json.Reader
import Firewall.Policy.Basic
import Firewall.Text.Utf8

/-!
# Policy files

A policy file is a JSON text in UTF-8.  What can be wrong with it: it is missing, its bytes are no
text, the text is no JSON, an integer in it is too long, or the document is no policy; and the
message about the document may have no UTF-8 form.
-/

namespace Firewall

/-- Why a policy file is not read. -/
inductive PolicyError where
  | missing (path : String)
  | notText (fault : Text.Utf8.Fault)
  /-- The text is no JSON; the reason says why. -/
  | malformed (path reason : String)
  | badNumber (fault : Integer.Fault)
  | invalid (path : String) (invalid : Schema.Invalid)
  | notEncoded (found : Text.Unencodable)

namespace PolicyError

def message : PolicyError → String
  | .missing path => "Policy file not found: " ++ path
  | .notText fault => fault.message
  | .malformed path reason => "Invalid JSON in " ++ path ++ ": " ++ reason
  | .badNumber fault => fault.message
  | .invalid path issues => "Validation error in " ++ path ++ ": " ++ issues.message
  | .notEncoded found => found.message

/-- What is wrong with the policy file at a path, if its document is no policy. -/
def ofFault (path : String) : Policy.Fault → PolicyError
  | .invalid issues => .invalid path issues
  | .notEncoded found => .notEncoded found

end PolicyError

namespace Policy

/-- Reads the characters of the policy file at a path. -/
def ofText (path : String) (text : List Char) : Except PolicyError Policy :=
  match Json.read text with
  | .error (.malformed fault) => .error (.malformed path (fault.message text))
  | .error (.integerTooLong digits) => .error (.badNumber (.tooLong digits))
  | .ok document => (read document).mapError (.ofFault path)

/-- Reads the content of the policy file at a path.  Line ends of all kinds are read alike. -/
def ofBytes (path : String) (bytes : List UInt8) : Except PolicyError Policy :=
  match Text.Utf8.decode bytes with
  | .error fault => .error (.notText fault)
  | .ok text => ofText path (Text.unixNewlines text)

/-- Reads the policy file at a path, if there is one. -/
def load (path : String) : Option (List UInt8) → Except PolicyError Policy
  | none => .error (.missing path)
  | some bytes => ofBytes path bytes

end Policy

end Firewall
