import Firewall.Text.Digit
import Firewall.Text.Line

/-!
# Ports

A port of a rule is one number, or a range written as two numbers with a colon between them.  The
digits of a range may be of any script, and its numbers are not compared.  Rules and the look-up of
services know different versions of Unicode, so a range of a rule may be no range to the other.
-/

namespace Firewall

/-- Two runs of one or more digits with a colon between them, and nothing else. -/
def isRangeIn (isDigit : Char → Bool) (text : List Char) : Bool :=
  match Text.fields ':' text with
  | [low, high] => !low.isEmpty && low.all isDigit && !high.isEmpty && high.all isDigit
  | _ => false

/-- A range of a rule. -/
def isRange (text : List Char) : Bool := isRangeIn Text.isRecentDecimal text

/-- Whether a text is taken for a range where services are looked up: it is one, or becomes one
when a line break at its end is left out. -/
def isPortRange (text : String) : Bool :=
  isRangeIn Text.isDecimal text.toList
    || (text.toList.getLast? == some '\n' && isRangeIn Text.isDecimal text.toList.dropLast)

/-- A port of a rule. -/
inductive Port where
  | number (value : Fin 65536)
  | range (content : String) (valid : isRange content.toList = true)
  deriving DecidableEq

namespace Port

/-- The text of a port in a rule. -/
def text : Port → String
  | .number value => toString value.val
  | .range content _ => content

end Port

end Firewall
