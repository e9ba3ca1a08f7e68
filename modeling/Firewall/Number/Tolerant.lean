import Firewall.Number.Integer
import Firewall.Text.Blank
import Firewall.Text.Line

/-!
# Integers, tolerantly read

A plain literal is an optional minus and ASCII digits without needless zeros.  A text that is no
plain literal is tidied, and then has to be one: blanks around it, a sign, zeros in front, zeros
behind a point and single underscores between digits are left out.  A text that starts with a plain
literal of more than `Integer.digitLimit` digits is refused as it stands.
-/

namespace Firewall.Integer

/-- Why a text is no integer to a tolerant reader. -/
inductive Refusal where
  | malformed
  | tooLong
  deriving DecidableEq, Repr

/-- Reads a plain literal. -/
def readPlain? (text : List Char) : Option Int :=
  let (negative, digits) := match text with
    | '-' :: digits => (true, digits)
    | digits => (false, digits)
  if digitLimit < digits.length ∨ (digits.head? = some '0' ∧ digits.length ≠ 1) then none
  else (Text.natural? digits).map (withSign negative)

/-- Whether the text starts with a plain literal of too many digits. -/
def startsTooLong (text : List Char) : Bool :=
  let digits := match text with
    | '-' :: digits => digits
    | digits => digits
  digits.head? != some '0' && digitLimit < (digits.takeWhile Char.isDigit).length

/-- What follows a zero and the zeros and underscores behind it.  The last of them stays if nothing
follows, or a point. -/
def behindZero (last : Char) : List Char → Option (List Char)
  | [] => some [last]
  | character :: rest =>
      if character = '0' ∨ character = '_' then behindZero character rest
      else if character = '.' then some (last :: character :: rest)
      else if character.isDigit ∨ character = '-' then some (character :: rest)
      else none

/-- The text without zeros in front; it has to start with a digit. -/
def dropZeros : List Char → Option (List Char)
  | [] => none
  | character :: rest =>
      if character = '0' then behindZero character rest
      else if character.isDigit then some (character :: rest)
      else none

/-- The text without its first point and what follows, if those are one or more zeros. -/
def dropFraction (text : List Char) : List Char :=
  match text.dropWhile (· ≠ '.') with
  | _ :: '0' :: zeros => if zeros.all (· == '0') then Text.before '.' text else text
  | _ => text

/-- The text without underscores, if each of them stands between two other characters. -/
def dropUnderscores (text : List Char) : List Char :=
  let groups := Text.fields '_' text
  if groups.all (!·.isEmpty) then groups.flatten else text

/-- The plain form of a text. -/
def tidy? (text : List Char) : Option (List Char) :=
  let (negative, body) := unsigned (Text.trim Text.isSpace text)
  (dropZeros body).map fun body =>
    let body := dropUnderscores (dropFraction body)
    if negative then '-' :: body else body

/-- Reads an integer tolerantly. -/
def readTolerantly (text : List Char) : Except Refusal Int :=
  if startsTooLong text then .error .tooLong
  else
    match readPlain? text <|> (tidy? text).bind readPlain? with
    | some number => .ok number
    | none => .error .malformed

example : readTolerantly [' ', '+', '0', '8', '_', '0', '.', '0'] = .ok 80 := by cbv
example : readTolerantly ['8', '0', '.'] = .error .malformed := by cbv
example : readTolerantly ['0', '_', '-', '1'] = .ok (-1) := by cbv

end Firewall.Integer
