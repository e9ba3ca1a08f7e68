import Firewall.Number.Tolerant
import Firewall.Schema.Checked
import Firewall.Text.CodePoint
import Firewall.Value

/-!
# Fields of a document

Readers of single values, and of the fields of an object.  A field may go by several keys, of which
the first one given counts; a key that no field uses is an issue of its own.  Where a text stands
for something else, and where it is the key of a model, it has to be whole.
-/

namespace Firewall.Schema

variable {α : Type}

/-! ## Values -/

def text : Value → Checked String
  | .text content => .valid content
  | _ => .issue .stringType

/-- Reads a text that has to be whole. -/
def wholeText (read : String → Checked α) (content : String) : Checked α :=
  if Text.isWhole content then read content else .issue .stringUnicode

/-- The words that stand for true and false, whatever the case of their letters. -/
def truthWords : List (String × Bool) :=
  [("1", true), ("on", true), ("t", true), ("true", true), ("y", true), ("yes", true),
    ("0", false), ("off", false), ("f", false), ("false", false), ("n", false), ("no", false)]

/-- The least integer that 64 bits hold. -/
def leastWord : Int := -9223372036854775808

/-- The greatest integer that 64 bits hold. -/
def greatestWord : Int := 9223372036854775807

/-- The integer that a floating-point number without a fraction is, if 64 bits hold it. -/
def integerOfFloat (number : Binary64) : Checked Int :=
  if !number.isFinite then .issue .finiteNumber
  else
    match number.toInt? with
    | none => .issue .intFromFloat
    | some value =>
        if leastWord < value ∧ value ≤ greatestWord then .valid value else .issue .intParsingSize

/-- The truth value that a number stands for; another one of 64 bits is an unknown word. -/
def truthOfNumber (number : Int) : Checked Bool :=
  if number = 0 then .valid false
  else if number = 1 then .valid true
  else if leastWord ≤ number ∧ number ≤ greatestWord then .issue .boolParsing
  else .issue .boolType

/-- The truth value that a word stands for. -/
def truthOfWord (word : String) : Checked Bool :=
  match valueOf? (word.map Char.toLower) truthWords with
  | some value => .valid value
  | none => .issue .boolParsing

/-- A truth value, or a word or number that stands for one. -/
def truth : Value → Checked Bool
  | .bool value => .valid value
  | .int number => truthOfNumber number
  | .float number =>
      match integerOfFloat number with
      | .valid number => truthOfNumber number
      | .invalid _ => .issue .boolType
  | .text content => wholeText truthOfWord content
  | _ => .issue .boolType

def oneOf (choices : List (String × α)) : Value → Checked α
  | .text content =>
      content |> wholeText fun word =>
        match valueOf? word choices with
        | some choice => .valid choice
        | none => .issue (.notAmong (choices.map Prod.fst))
  | _ => .issue (.notAmong (choices.map Prod.fst))

/-- The integer that a text writes. -/
def integerOfText (content : String) : Checked Int :=
  match Integer.readTolerantly content.toList with
  | .ok number => .valid number
  | .error .tooLong => .issue .intParsingSize
  | .error .malformed => .issue .intParsing

def integer : Value → Checked Int
  | .int number => .valid number
  | .bool value => .valid (if value then 1 else 0)
  | .float number => integerOfFloat number
  | .text content => wholeText integerOfText content
  | _ => .issue .intType

def listOf (read : Value → Checked α) : Value → Checked (List α)
  | .list items => Checked.items read 0 items
  | _ => .issue .listType

/-- Null, or a value. -/
def orNull (read : Value → Checked α) : Value → Checked (Option α)
  | .null => .valid none
  | value => some <$> read value

/-! ## Fields -/

/-- The members of an object. -/
abbrev Members := List (String × Value)

/-- The key among some under which a field is given, and its value. -/
def given? (keys : List String) (members : Members) : Option (String × Value) :=
  keys.findSome? fun key => (valueOf? key members).map (key, ·)

/-- A field; if it is not given, the outcome for an absent one. -/
def field (keys : List String) (absent : Checked α) (read : Value → Checked α)
    (members : Members) : Checked α :=
  match given? keys members with
  | none => absent
  | some (key, value) => (read value).under (.key key)

/-- A field that may be absent or null. -/
def nullable (keys : List String) (read : Value → Checked α) (members : Members) :
    Checked (Option α) :=
  field keys (.valid none) (orNull read) members

def required (keys : List String) (read : Value → Checked α) (members : Members) : Checked α :=
  field keys (.invalid [⟨.missing, [.key (keys.headD "")]⟩]) read members

/-- Every key belongs to one of the fields, each given by its keys. -/
def noOthers (fields : List (List String)) (members : Members) : Checked Unit :=
  let used := fields.filterMap fun keys => (given? keys members).map Prod.fst
  match members.filter fun (key, _) => !used.contains key with
  | [] => .valid ()
  | others => .invalid (others.map fun (key, _) => ⟨.extraForbidden, [.key key]⟩)

/-- Whether every key is whole. -/
def hasWholeKeys (members : Members) : Bool :=
  members.all fun (key, _) => Text.isWhole key

/-- An object that is read as a model.  Its members are not looked at if a key is not whole. -/
def model (name : String) (read : Members → Checked α) : Value → Checked α
  | .object members => if hasWholeKeys members then read members else .issue .stringUnicode
  | _ => .issue (.modelType name)

end Firewall.Schema
