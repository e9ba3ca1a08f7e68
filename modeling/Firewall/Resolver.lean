import Firewall.Build.Error
import Firewall.Build.History
import Firewall.Distinct

/-!
# Names of hosts

A host name stands for a list of addresses.  A table of names is asked first; then a text that is
itself an address stands for that address; then the system is asked, if it may be.  What the system
answers is remembered, what it fails to answer is not.
-/

namespace Firewall

/-- What the system answers when it is asked for a name. -/
inductive DnsAnswer where
  | addresses (texts : List String)
  | failure (failure : LookupFailure)
  deriving DecidableEq, Repr

/-- The table of names, and the system behind it. -/
structure Resolver where
  names : Table String (List Address)
  system : Option (String → DnsAnswer)

namespace Resolver

/-- The addresses of an answer: without zones, each once. -/
def readAnswer (texts : List String) : Except Address.Malformed (List Address) :=
  (texts.mapM fun text => Address.read (String.ofList (Text.before '%' text.toList))).map distinct

/-- Asks the system for a name. -/
def ask (system : String → DnsAnswer) (name : String) : Recorded BuildError (List Address) := do
  Recorded.note [.resolving name]
  match system name with
  | .failure failure => throw (.unresolved name failure)
  | .addresses texts =>
      match readAnswer texts with
      | .error malformed => throw (.badAddress malformed)
      | .ok addresses =>
          if addresses.isEmpty then throw (.unresolved name .noAddresses)
          Recorded.note [.resolved name addresses]
          return addresses

/-- The addresses of a name that the system knows, asked for only once. -/
def askOnce (system : String → DnsAnswer) (name : String) : Recorded BuildError (List Address) := do
  match (← getThe History).known.get? name with
  | some addresses => return addresses
  | none =>
      let addresses ← ask system name
      modifyThe History fun history => { history with known := history.known.put name addresses }
      return addresses

/-- The addresses of a name. -/
def resolve (resolver : Resolver) (name : String) : Recorded BuildError (List Address) :=
  match resolver.names.get? name with
  | some addresses => pure addresses
  | none =>
      match Address.read? name with
      | some address => pure [address]
      | none =>
          match resolver.system with
          | none => throw (.unresolved name .unknownHost)
          | some system => askOnce system name

/-- A table of names, with the addresses read. -/
def readNames (names : List (String × List String)) :
    Except Address.Malformed (Table String (List Address)) := do
  let entries ← names.mapM fun (name, texts) => do return (name, ← texts.mapM Address.read)
  return Table.ofList entries

end Resolver

end Firewall
