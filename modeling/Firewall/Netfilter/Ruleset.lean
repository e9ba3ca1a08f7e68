import Firewall.Clock
import Firewall.Netfilter.Line
import Firewall.Program

/-!
# Rulesets

The complete text for one host.  The nat table is written only if some rule translates addresses.
Every chain of the filter table that has a rule first accepts the replies to what was accepted.
-/

namespace Firewall

/-- The first line: who wrote the ruleset, and when. -/
def headerLine (time : ClockTime) : String :=
  "# Generated by " ++ Program.name ++ " v" ++ Program.version ++ " on " ++ time.text

/-- The declaration of a chain with its policy. -/
def declaration (policy : String) (chain : Chain) : String :=
  ":" ++ chain.name ++ " " ++ policy ++ " [0:0]"

/-- The line that accepts replies in a chain. -/
def repliesLine (chain : Chain) : String :=
  "-A " ++ chain.name ++ " -m state --state ESTABLISHED,RELATED -j ACCEPT"

/-- The default action that a word asks for.  Only the word for blocking blocks. -/
def Action.ofPolicy (word : String) : Action :=
  if word = Action.block.name then .block else .pass

@[simp] theorem Action.ofPolicy_name (action : Action) : ofPolicy action.name = action := by
  cases action <;> rfl

/-- The policy of the filter chains for a default action. -/
def policyWord : Action → String
  | .block => "DROP"
  | .pass => "ACCEPT"

/-- The rules that are appended to a chain. -/
def rulesOf (chain : Chain) (rules : List Rule) : List Rule :=
  rules.filter (·.chain == chain)

/-- The lines of the nat table. -/
def natTable (rules : List Rule) : List String :=
  "*nat" :: Chain.nat.map (declaration "ACCEPT")
    ++ Chain.nat.flatMap (fun chain => (rulesOf chain rules).map Rule.line)
    ++ ["COMMIT"]

/-- The lines of a chain of the filter table. -/
def filterChain (rules : List Rule) (chain : Chain) : List String :=
  match rulesOf chain rules with
  | [] => []
  | first :: rest => repliesLine chain :: (first :: rest).map Rule.line

/-- The lines of the filter table. -/
def filterTable (rules : List Rule) (default : Action) : List String :=
  "*filter" :: Chain.filter.map (declaration (policyWord default))
    ++ Chain.filter.flatMap (filterChain rules)
    ++ ["COMMIT"]

def natRules (rules : List Rule) : List Rule := rules.filter (·.isNat)

def filterRules (rules : List Rule) : List Rule := rules.filter (!·.isNat)

/-- The lines of a ruleset. -/
def rulesetLines (rules : List Rule) (default : Action) (time : ClockTime) : List String :=
  headerLine time
    :: (if (natRules rules).isEmpty then [] else natTable (natRules rules))
    ++ filterTable (filterRules rules) default

/-- The text of a ruleset; every line ends with a line break. -/
def ruleset (rules : List Rule) (default : Action) (time : ClockTime) : String :=
  String.intercalate "\n" (rulesetLines rules default time) ++ "\n"

end Firewall
