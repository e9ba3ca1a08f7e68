import Firewall.Text.Digit
import Firewall.Text.Quoted

/-!
# Integer literals

The literal that a services file holds: an optional sign, then decimal digits of any script, where
one underscore may stand between two of them.  A literal of more than `Integer.digitLimit` digits is
refused.
-/

namespace Firewall.Integer

/-- Why a text is no integer. -/
inductive Fault where
  /-- The text is not an integer literal. -/
  | malformed (text : String)
  /-- The literal has too many digits. -/
  | tooLong (digits : Nat)
  deriving DecidableEq, Repr

/-- The greatest number of digits that is read. -/
def digitLimit : Nat := 4300

/-- The message of a fault.  A text is shown up to a length. -/
def Fault.message : Fault → String
  | .malformed text =>
      "invalid literal for int() with base 10: "
        ++ String.ofList ((Text.quote text).toList.take 200)
  | .tooLong digits =>
      "Exceeds the limit (" ++ toString digitLimit
        ++ " digits) for integer string conversion: value has " ++ toString digits
        ++ " digits; use sys.set_int_max_str_digits() to increase the limit"

/-- Takes the sign from the front of a literal: whether it is a minus, and the rest. -/
def unsigned : List Char → Bool × List Char
  | '-' :: rest => (true, rest)
  | '+' :: rest => (false, rest)
  | text => (false, text)

/-- The number with a sign and a magnitude. -/
def withSign (negative : Bool) (magnitude : Nat) : Int :=
  if negative then -magnitude else magnitude

/-- The digits of a literal in which single underscores may stand between digits. -/
def groups? : List Char → Option (List Nat)
  | [] => none
  | [character] => (Text.digitValue? character).map ([·])
  | character :: '_' :: rest => do return (← Text.digitValue? character) :: (← groups? rest)
  | character :: rest => do return (← Text.digitValue? character) :: (← groups? rest)

/-- The front of a text up to the first character that is neither a digit nor an underscore,
read as digits, and what follows it. -/
def split? (text : List Char) : Option (List Nat × List Char) :=
  let inLiteral (character : Char) : Bool := Text.isDecimal character || character == '_'
  (groups? (text.takeWhile inLiteral)).map (·, text.dropWhile inLiteral)

/-- Reads a literal with digits of any script.  A literal that is too long is refused before the
text after it is looked at. -/
def read (text : String) : Except Fault Int :=
  let (negative, body) := unsigned text.toList
  match split? body with
  | none => .error (.malformed text)
  | some (digits, rest) =>
      if digitLimit < digits.length then .error (.tooLong digits.length)
      else if rest.isEmpty then .ok (withSign negative (Text.numberOf 10 digits))
      else .error (.malformed text)

example : read "-1_0" = .ok (-10) := by cbv
example : read "1__0" = .error (.malformed "1__0") := by cbv

end Firewall.Integer
