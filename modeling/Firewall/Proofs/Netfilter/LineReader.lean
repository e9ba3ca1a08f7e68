import Firewall.Netfilter.Line
import Firewall.Proofs.Address.RoundTrip
import Firewall.Proofs.Port

/-!
# Rule lines read back

A line is a list of words with spaces between them.  The chain comes first and says which interfaces
can follow, and every other part is led by an option of its own, so each word is read at the place
where it was written, whatever it looks like.
-/

namespace Firewall

open Text

/-- What a rule line says. -/
structure RuleLine where
  chain : Chain
  interfaces : InterfaceMatch
  protocol : Option String
  source : Rule.Endpoint
  destination : Rule.Endpoint
  target : Target
  deriving DecidableEq

def Chain.ofName? (name : String) : Option Chain :=
  [Chain.prerouting, .input, .forward, .output, .postrouting].find? (·.name = name)

/-- The value of an option, if the words start with the option, and the words behind it. -/
def takeOption (option : String) : List String → Option String × List String
  | first :: value :: rest =>
      if first = option then (some value, rest) else (none, first :: value :: rest)
  | words => (none, words)

/-- The interfaces of a rule in a chain, and the words behind them. -/
def takeInterfaces (chain : Chain) (words : List String) : InterfaceMatch × List String :=
  if chain = .forward then
    let (inbound, words) := takeOption "-i" words
    let (outbound, words) := takeOption "-o" words
    (.through inbound outbound, words)
  else
    match words with
    | first :: second :: rest =>
        if first = "-i" then (.one .inbound second, rest)
        else if first = "-o" then (.one .outbound second, rest)
        else if first = "!" then
          match rest with
          | name :: rest => (.allBut name, rest)
          | [] => (.any, words)
        else (.any, words)
    | _ => (.any, words)

/-- Reads a value if there is one. -/
def readValue? {α : Type} (read? : String → Option α) : Option String → Option (Option α)
  | none => some none
  | some word => (read? word).map some

/-- One end of a connection, and the words behind it. -/
def takeEndpoint? (hostOption portOption : String) (words : List String) :
    Option (Rule.Endpoint × List String) :=
  let (host, words) := takeOption hostOption words
  let (port, words) := takeOption portOption words
  match readValue? (Address.parse? ·.toList) host, readValue? Port.ofText? port with
  | some host, some port => some (⟨host, port⟩, words)
  | _, _ => none

/-- Another host and the port there. -/
def hostAndPort? (host port : List Char) : Option Target :=
  match Address.parse? host, Port.ofText? (String.ofList port) with
  | some host, some port => some (.destination host (some port))
  | _, _ => none

/-- Reads another destination.  A colon is in front of a port only behind brackets or points. -/
def destination? : List Char → Option Target
  | '[' :: text =>
      hostAndPort? (before ']' text) ((text.dropWhile (· ≠ ']')).drop 2)
  | text =>
      if '.' ∈ text ∧ ':' ∈ text then
        hostAndPort? (before ':' text) ((text.dropWhile (· ≠ ':')).drop 1)
      else (Address.parse? text).map (.destination · none)

def target? : List String → Option Target
  | ["RETURN"] => some .returning
  | ["REDIRECT"] => some (.redirect none)
  | ["MASQUERADE"] => some .masquerade
  | ["ACCEPT"] => some .accept
  | ["DROP"] => some .drop
  | ["REDIRECT", "--to-port", port] => (Port.ofText? port).map (.redirect ∘ some)
  | ["DNAT", "--to-destination", text] => destination? text.toList
  | _ => none

def ruleLine? : List String → Option RuleLine
  | "-A" :: name :: words => do
      let chain ← Chain.ofName? name
      let (interfaces, words) := takeInterfaces chain words
      let (protocol, words) := takeOption "-p" words
      let (source, words) ← takeEndpoint? "-s" "--sport" words
      let (destination, words) ← takeEndpoint? "-d" "--dport" words
      match words with
      | "-j" :: words => return ⟨chain, interfaces, protocol, source, destination, ← target? words⟩
      | _ => none
  | _ => none

/-- Reads a rule line: spaces separate its words. -/
def RuleLine.ofText? (line : String) : Option RuleLine :=
  ruleLine? ((Text.fields ' ' line.toList).map String.ofList)

end Firewall
