import Firewall.Text.Line

/-!
# Faults of a JSON text

A fault is a kind and a position.  Its message counts the position out in lines and columns.
-/

namespace Firewall.Json

/-- What a reader of JSON expected or refused. -/
inductive FaultKind where
  | value
  | key
  | colon
  | comma
  | extraData
  | unterminatedString
  | controlCharacter
  | escape
  | unicodeEscape
  | byteOrderMark
  deriving DecidableEq, Repr

/-- What a fault is, without its place. -/
def FaultKind.message : FaultKind → String
  | .value => "Expecting value"
  | .key => "Expecting property name enclosed in double quotes"
  | .colon => "Expecting ':' delimiter"
  | .comma => "Expecting ',' delimiter"
  | .extraData => "Extra data"
  | .unterminatedString => "Unterminated string starting at"
  | .controlCharacter => "Invalid control character at"
  | .escape => "Invalid \\escape"
  | .unicodeEscape => "Invalid \\uXXXX escape"
  | .byteOrderMark => "Unexpected UTF-8 BOM (decode using utf-8-sig)"

/-- A fault at a position, which counts characters from zero. -/
structure Fault where
  kind : FaultKind
  position : Nat
  deriving DecidableEq, Repr

def lineOf (text : List Char) (position : Nat) : Nat :=
  (text.take position).count '\n' + 1

def columnOf (text : List Char) (position : Nat) : Nat :=
  (Text.before '\n' (text.take position).reverse).length + 1

/-- The message of a fault of a text. -/
def Fault.message (fault : Fault) (text : List Char) : String :=
  fault.kind.message ++ ": line " ++ toString (lineOf text fault.position)
    ++ " column " ++ toString (columnOf text fault.position)
    ++ " (char " ++ toString fault.position ++ ")"

end Firewall.Json
