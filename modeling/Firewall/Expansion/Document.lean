import Firewall.Expansion.Product
import Firewall.Value

/-!
# Expansion of a document

A document with alternatives in some of its fields stands for one document for each choice among
them.  A list of alternatives may hold lists, whose leaves count.  All other members stay as they
are.
-/

namespace Firewall

mutual

/-- The alternatives that a value holds: the leaves of a list, or the value itself. -/
def Value.leaves : Value → List Value
  | .list items => leavesOfItems items
  | value => [value]

def leavesOfItems : List Value → List Value
  | [] => []
  | item :: rest => item.leaves ++ leavesOfItems rest

end

theorem leavesOfItems_eq_flatMap (items : List Value) :
    leavesOfItems items = items.flatMap Value.leaves := by
  induction items with
  | nil => rfl
  | cons item rest ih => simp [leavesOfItems, ih]

namespace Expansion

/-- A place that may hold alternatives: a member, or a member of a member. -/
inductive Place where
  | top (key : String)
  | inside (outer key : String)
  deriving DecidableEq, Repr

/-- The places that are expanded, outermost first. -/
def places : List Place :=
  [.top "proto", .inside "from" "host", .inside "from" "port", .inside "to" "host",
    .inside "to" "port", .top "nat_to", .inside "rdr_to" "host", .inside "rdr_to" "port"]

/-- Why a document cannot be expanded. -/
inductive Fault where
  | missing (key : String)
  /-- A value without members stands where a member is wanted. -/
  | noMembers (kind : Value.Kind)
  deriving DecidableEq, Repr

def Fault.message : Fault → String
  | .missing key => Text.quote key
  | .noMembers .text => "string indices must be integers, not 'str'"
  | .noMembers .list => "list indices must be integers or slices, not str"
  | .noMembers kind => "'" ++ kind.name ++ "' object is not subscriptable"

/-- The member of a value with a key. -/
def member (key : String) : Value → Except Fault Value
  | .object members =>
      match valueOf? key members with
      | some value => .ok value
      | none => .error (.missing key)
  | value => .error (.noMembers value.kind)

/-- The value at a place. -/
def Place.get (document : Value) : Place → Except Fault Value
  | .top key => member key document
  | .inside outer key => do member key (← member outer document)

/-- Gives a member of an object a value. -/
def assign (key : String) (value : Value) : Value → Value
  | .object members => .object (putEntry key value members)
  | other => other

/-- Puts a value at a place. -/
def Place.set (value : Value) (document : Value) : Place → Value
  | .top key => assign key value document
  | .inside outer key =>
      match member outer document with
      | .ok object => assign outer (assign key value object) document
      | .error _ => document

/-- The document for one choice of alternatives. -/
def choose (document : Value) (choices : List Value) : Value :=
  (places.zip choices).foldl (fun document choice => choice.1.set choice.2 document) document

/-- The documents that a document stands for. -/
def expand (document : Value) : Except Fault (List Value) := do
  let choices ← places.mapM fun place => do return (← place.get document).leaves
  return (product choices).map (choose document)

end Expansion

end Firewall
