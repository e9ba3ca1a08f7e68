import Firewall.Number.Shortest
import Firewall.Table
import Firewall.Text.Quoted

/-!
# Values of a document

A document is a tree of values as a JSON text writes it.  The members of an object keep their
order, and a reader of documents gives each key once.  `Value.text` is how a value is shown
inside a message.
-/

namespace Firewall

/-- A value of a document. -/
inductive Value where
  | null
  | bool (truth : Bool)
  | int (number : Int)
  | float (number : Binary64)
  | text (content : String)
  | list (items : List Value)
  | object (members : List (String × Value))
  deriving Inhabited

namespace Value

/-- The kinds of values that a message can name. -/
inductive Kind where
  | null | bool | int | float | text | list | object
  deriving DecidableEq, Repr

def Kind.name : Kind → String
  | .null => "NoneType"
  | .bool => "bool"
  | .int => "int"
  | .float => "float"
  | .text => "str"
  | .list => "list"
  | .object => "dict"

def kind : Value → Kind
  | .null => .null
  | .bool _ => .bool
  | .int _ => .int
  | .float _ => .float
  | .text _ => .text
  | .list _ => .list
  | .object _ => .object

/-- Nothing is given: null, false, a zero, an empty text, list or object. -/
def isBlank : Value → Bool
  | .null => true
  | .bool truth => !truth
  | .int number => number == 0
  | .float number => number.isZero
  | .text content => content.isEmpty
  | .list items => items.isEmpty
  | .object members => members.isEmpty

def member? (key : String) : Value → Option Value
  | .object members => valueOf? key members
  | _ => none

mutual

/-- The text that shows a value. -/
def shown : Value → String
  | .null => "None"
  | .bool true => "True"
  | .bool false => "False"
  | .int number => toString number
  | .float number => number.text
  | .text content => Text.quote content
  | .list items => "[" ++ String.intercalate ", " (shownItems items) ++ "]"
  | .object members => "\x7b" ++ String.intercalate ", " (shownMembers members) ++ "\x7d"

def shownItems : List Value → List String
  | [] => []
  | item :: rest => item.shown :: shownItems rest

def shownMembers : List (String × Value) → List String
  | [] => []
  | (key, value) :: rest => (Text.quote key ++ ": " ++ value.shown) :: shownMembers rest

end

end Value

end Firewall
