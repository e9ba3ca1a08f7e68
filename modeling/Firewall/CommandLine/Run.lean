import Firewall.CommandLine.Options
import Firewall.Compile
import Firewall.Files.Tree
import Firewall.Policy.File

/-!
# Runs of the program

A run loads the policy and the services, compiles the selected hosts, and writes each ruleset to a
file of its own or to standard output.  It works on a file tree and leaves one behind.
-/

namespace Firewall

/-- The addresses of the names of a policy. -/
def Policy.addresses (policy : Policy) : Table String (List Address) :=
  Table.ofList (policy.names.entries.map fun (name, texts) => (name, texts.filterMap Address.read?))

namespace CommandLine

/-- How a run ends that comes to its end. -/
inductive Ending where
  | success
  /-- The policy or the services are not loaded. -/
  | notLoaded
  /-- Some host failed to compile. -/
  | hostsFailed
  deriving DecidableEq, Repr

/-- The exit code of an ending. -/
def Ending.code : Ending → Nat
  | .success => 0
  | .notLoaded => 1
  | .hostsFailed => 2

/-- Why a run breaks off. -/
inductive RunError where
  | compile (error : CompileError)
  | file (error : FileError)
  /-- An option for a host has no value. -/
  | noHost
  /-- An option for a path has no value. -/
  | noPath

def RunError.message : RunError → String
  | .compile error => error.message
  | .file error => error.message
  | .noHost => "unhashable type: 'list'"
  | .noPath => "expected str, bytes or os.PathLike object, not list"

/-- The world around a run. -/
structure Surroundings where
  tree : FileTree
  system : String → DnsAnswer
  time : ClockTime

/-- What a run leaves behind. -/
structure Run where
  ending : Except RunError Ending
  output : String
  events : List Event
  tree : FileTree

/-- Why a file is not loaded. -/
inductive LoadError where
  | policy (error : PolicyError)
  | file (error : FileError)

def LoadError.message : LoadError → String
  | .policy error => error.message
  | .file error => error.message

/-- Loads the policy at a path. -/
def loadPolicy (tree : FileTree) (path : Path) : Except LoadError Policy := do
  if ← (tree.exists? path).mapError .file then
    let bytes ← (tree.read path).mapError .file
    (Policy.load path.text (some bytes)).mapError .policy
  else (Policy.load path.text none).mapError .policy

/-- Loads the services at a path, with the events of doing so. -/
def loadServices (tree : FileTree) (path : Path) : Except LoadError (Services × List Event) := do
  let bytes ← (tree.read path).mapError .file
  let lines := Text.lines (Text.Utf8.decodeReplacing bytes)
  let services := Services.ofLines lines
  let badPorts := (Services.badPorts lines).map fun (line, word) => Event.badPort line word
  return (services, badPorts ++ [.servicesLoaded services.size path.text])

/-- The file of a host in a directory. -/
def rulesPath (directory : Path) (host : String) : Path :=
  directory.join (Path.read (host ++ ".rules"))

/-- The files of rulesets in a directory, with their texts. -/
def filesOf (directory : Path) (rulesets : List (String × String)) : List (Path × String) :=
  rulesets.map fun (host, text) => (rulesPath directory host, text)

/-- Writes a text to a file, which stays empty if the text has no UTF-8 form. -/
def writeText (tree : FileTree) (path : Path) (text : String) : FileTree × Option FileError :=
  let bytes := if Text.isWhole text then Text.Utf8.encode text else []
  match tree.write path bytes with
  | .error error => (tree, some error)
  | .ok later => (later, (Text.unencodable? text).map .notEncoded)

/-- Writes texts to their files, up to the first that cannot be written. -/
def writeFiles (tree : FileTree) : List (Path × String) → FileTree × List Event × Option FileError
  | [] => (tree, [], none)
  | (path, text) :: rest =>
      match writeText tree path text with
      | (tree, some error) => (tree, [], some error)
      | (tree, none) =>
          let (tree, events, error) := writeFiles tree rest
          (tree, .wrote path.text :: events, error)

/-- Prints texts, each announced by its host, up to the first without a UTF-8 form. -/
def printAll : List (String × String) → String × List Event × Option FileError
  | [] => ("", [], none)
  | (host, text) :: rest =>
      match Text.unencodable? text with
      | some found => ("", [.printing host], some (.notEncoded found))
      | none =>
          let (output, events, error) := printAll rest
          (text ++ output, .printing host :: events, error)

/-- What writing rulesets leaves behind. -/
structure Written where
  tree : FileTree
  output : String
  events : List Event
  error : Option FileError

/-- Writes rulesets into a directory, or to standard output. -/
def write (tree : FileTree) (directory : Option String) (rulesets : List (String × String)) :
    Written :=
  match directory with
  | none =>
      let (output, events, error) := printAll rulesets
      { tree, output, events, error }
  | some directory =>
      let directory := Path.read directory
      match tree.ensureAll directory with
      | .error error => { tree, output := "", events := [], error := some error }
      | .ok tree =>
          let (tree, events, error) := writeFiles tree (filesOf directory rulesets)
          { tree, output := "", events, error }

/-- The events at the end of a run: the summary of a report with entries, and the failed hosts. -/
def closing (report : Report BuildError) : List Event :=
  (if report.entries.isEmpty then [] else report.summary.map .summary)
    ++ (if report.has .error then [.hostsFailed report.failedHosts] else [])

/-- How a run with a report ends. -/
def endingOf (report : Report BuildError) : Ending :=
  if report.has .error then .hostsFailed else .success

/-- Why a run with some options ends behind its compilation without writing anything. -/
def stopping? (options : Options) (done : Compilation) : Option RunError :=
  match done.ended with
  | some error => some (.compile error)
  | none =>
      if (options.hosts.getD []).contains .missing then some .noHost
      else if options.outputDirectory = some .missing then some .noPath
      else none

/-- Compiles a policy that is loaded, and writes the rulesets.  The hosts behind an option without a
value are not compiled. -/
def compileAndWrite (surroundings : Surroundings) (options : Options) (policy : Policy)
    (services : Services) (events : List Event) : Run :=
  let tree := surroundings.tree
  let resolver : Resolver := ⟨policy.addresses, some surroundings.system⟩
  let compiler : Compiler := ⟨policy, ⟨resolver, services⟩, surroundings.time, true⟩
  let done := compiler.compile (options.hosts.map Argument.texts) ⟨Table.empty, events⟩
  match stopping? options done with
  | some error => ⟨.error error, "", done.history.events, tree⟩
  | none =>
      let directory := options.outputDirectory.bind Argument.text?
      let written := write tree directory done.rulesets.entries
      let events := done.history.events ++ written.events
      match written.error with
      | some error => ⟨.error (.file error), written.output, events, written.tree⟩
      | none =>
          ⟨.ok (endingOf done.report), written.output, events ++ closing done.report, written.tree⟩

/-- Runs the program with some options: loads the policy, then the services. -/
def run (surroundings : Surroundings) (options : Options) : Run :=
  let tree := surroundings.tree
  let events : List Event := [.loadingPolicy options.policy]
  let notLoaded (error : LoadError) : Run :=
    ⟨.ok .notLoaded, "", events ++ [.loadFailed error.message], tree⟩
  match loadPolicy tree (Path.read options.policy) with
  | .error error => notLoaded error
  | .ok policy =>
      match options.services with
      | .missing => ⟨.error .noPath, "", events, tree⟩
      | .text services =>
          match loadServices tree (Path.read services) with
          | .error error => notLoaded error
          | .ok loaded => compileAndWrite surroundings options policy loaded.1 (events ++ loaded.2)

/-- The events that are shown: all, or those that are not for finding faults. -/
def shown (options : Options) (events : List Event) : List Event :=
  if options.verbose then events else events.filter (·.level ≠ .debug)

end CommandLine

end Firewall
