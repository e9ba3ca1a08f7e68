import Firewall.Build.Factory
import Firewall.Netfilter.Ruleset
import Firewall.Policy.Basic

/-!
# Compilation of a policy

Each selected host gets its ruleset.  The failure of a host is reported, and the others go on; where
nobody collects reports, the first failure ends the compilation.  A few errors end it in any case.
-/

namespace Firewall

/-- Why a compilation ends early. -/
inductive CompileError where
  | unknownHost (name : String)
  | build (error : BuildError)

def CompileError.message : CompileError → String
  | .unknownHost name => Text.quote ("Unknown host: " ++ name)
  | .build error => error.message

instance : ToString BuildError := ⟨BuildError.message⟩

/-- What a compilation works with. -/
structure Compiler where
  policy : Policy
  factory : Factory
  time : ClockTime
  /-- Somebody collects reports. -/
  collects : Bool

/-- What a compilation has done so far. -/
structure Compilation where
  rulesets : Table String String
  report : Report BuildError
  history : History
  /-- The error that ended it. -/
  ended : Option CompileError

namespace Compilation

/-- The compilation before its first host. -/
def start (history : History) : Compilation := ⟨Table.empty, .empty, history, none⟩

/-- Adds an event. -/
def note (compilation : Compilation) (event : Event) : Compilation :=
  { compilation with
    history := { compilation.history with events := compilation.history.events ++ [event] } }

/-- Reports an entry, which is also an event. -/
def reportEntry (compilation : Compilation) (entry : Entry BuildError) : Compilation :=
  { compilation with report := compilation.report.add entry }.note
    (.reported entry.severity entry.text)

end Compilation

/-- The rules of a host: those of its intents, in order. -/
def Factory.buildHost (factory : Factory) (host : HostPolicy) :
    Recorded BuildError (List Rule) := do
  let batches ← (host.intents.zipIdx 1).mapM fun (intent, number) => do
    let batch ← factory.build intent host.restriction
    if 0 < batch.dropped ∨ 0 < batch.filtered then
      Recorded.note [.thinned number batch.kept.length batch.dropped batch.filtered]
    return batch
  return batches.flatMap Batch.kept

namespace Compiler

/-- What the report says of a selected host that the policy does not define. -/
def undefinedHost : String := "Host not defined in policy"

/-- What the report says of a host whose rules cannot be built. -/
def hostFailed : String := "Ruleset compilation failed"

/-- What the report says of a host without rules. -/
def noRules : String := "No rules generated; only the default policy applies"

/-- Deals with the failure of a host. -/
def failHost (compiler : Compiler) (name : String) (error : BuildError)
    (compilation : Compilation) : Compilation :=
  if compiler.collects ∧ error.isReported then
    compilation.reportEntry ⟨name, hostFailed, some error, .error⟩
  else { compilation with ended := some (.build error) }

/-- Writes the ruleset of a host. -/
def finishHost (compiler : Compiler) (name : String) (host : HostPolicy) (rules : List Rule)
    (compilation : Compilation) : Compilation :=
  let compilation :=
    if !rules.isEmpty then compilation
    else if compiler.collects then compilation.reportEntry ⟨name, noRules, none, .warning⟩
    else compilation.note (.defaultOnly name noRules)
  let text := ruleset rules host.default compiler.time
  let compilation := compilation.note
    (.emitting (natRules rules).length (filterRules rules).length)
  { compilation with rulesets := compilation.rulesets.put name text }.note
    (.compiled name rules.length)

/-- Compiles a host that the policy defines. -/
def compileHost (compiler : Compiler) (name : String) (host : HostPolicy)
    (compilation : Compilation) : Compilation :=
  let compilation := compilation.note (.compiling name host.intents.length)
  let (result, history) := (compiler.factory.buildHost host).after compilation.history
  let compilation := { compilation with history }
  match result with
  | .error error => compiler.failHost name error compilation
  | .ok rules => compiler.finishHost name host rules compilation

/-- Compiles a selected host, unless the compilation has ended. -/
def step (compiler : Compiler) (compilation : Compilation) (name : String) : Compilation :=
  if compilation.ended.isSome then compilation
  else
    match compiler.policy.hosts.get? name with
    | some host => compiler.compileHost name host compilation
    | none =>
        if compiler.collects then
          compilation.reportEntry ⟨name, undefinedHost, none, .error⟩
        else { compilation with ended := some (.unknownHost name) }

/-- Compiles the selected hosts, or all hosts in the order of the policy. -/
def compile (compiler : Compiler) (selected : Option (List String)) (history : History) :
    Compilation :=
  (selected.getD compiler.policy.hosts.keys).foldl compiler.step (.start history)

end Compiler

end Firewall
