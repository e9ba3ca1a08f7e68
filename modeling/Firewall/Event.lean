import Firewall.Address.Printer
import Firewall.Program
import Firewall.Report
import Firewall.Text.Quoted

/-!
# Events

What the program does that is worth a line of its log.  Each event belongs to a part of the program
and has a level and a message.
-/

namespace Firewall

/-- How important an event is. -/
inductive Level where
  | debug
  | info
  | warning
  | error
  deriving DecidableEq, Repr

def Level.name : Level → String
  | .debug => "DEBUG"
  | .info => "INFO"
  | .warning => "WARNING"
  | .error => "ERROR"

/-- The parts of the program that write to the log. -/
inductive Component where
  | services
  | resolver
  | factory
  | netfilter
  | compiler
  | report
  | commandLine
  deriving DecidableEq, Repr

def Component.name (component : Component) : String :=
  Program.name ++ "." ++ match component with
    | .services => "services"
    | .resolver => "resolver"
    | .factory => "factory"
    | .netfilter => "formatters.netfilter"
    | .compiler => "compiler"
    | .report => "errors"
    | .commandLine => "__main__"

/-- An event. -/
inductive Event where
  /-- A line of the services file has a bad port. -/
  | badPort (line : Nat) (word : String)
  | servicesLoaded (names : Nat) (path : String)
  /-- The system is asked for the addresses of a name. -/
  | resolving (name : String)
  | resolved (name : String) (addresses : List Address)
  /-- A combination mixes two families. -/
  | dropped (conflict : FamilyConflict)
  /-- A rule is of another family than the one it is restricted to. -/
  | filtered (family restriction : Family)
  /-- An intent lost some combinations, because they mix families or are outside the scope. -/
  | thinned (intent kept mixed outside : Nat)
  | compiling (host : String) (intents : Nat)
  | compiled (host : String) (rules : Nat)
  /-- A host has no rules, and nobody collects reports. -/
  | defaultOnly (host message : String)
  | emitting (natRules filterRules : Nat)
  | reported (severity : Severity) (text : String)
  | summary (line : SummaryLine)
  | loadingPolicy (path : String)
  | loadFailed (reason : String)
  /-- The ruleset of a host goes to standard output. -/
  | printing (host : String)
  | wrote (path : String)
  | hostsFailed (hosts : List String)
  deriving DecidableEq

namespace Event

def component : Event → Component
  | .badPort .. | .servicesLoaded .. => .services
  | .resolving _ | .resolved .. => .resolver
  | .dropped _ | .filtered .. => .factory
  | .thinned .. | .compiling .. | .compiled .. | .defaultOnly .. => .compiler
  | .emitting .. => .netfilter
  | .reported .. | .summary _ => .report
  | .loadingPolicy _ | .loadFailed _ | .printing _ | .wrote _ | .hostsFailed _ => .commandLine

def level : Event → Level
  | .badPort .. | .servicesLoaded .. | .resolving _ | .resolved .. | .dropped _ | .filtered ..
  | .thinned .. | .emitting .. => .debug
  | .compiling .. | .compiled .. | .summary .allClear | .loadingPolicy _ | .printing _
  | .wrote _ => .info
  | .defaultOnly .. | .reported .warning _ | .summary (.closingWarnings _) | .hostsFailed _ =>
      .warning
  | .reported .error _ | .summary _ | .loadFailed _ => .error

def familyName : Family → String
  | .inet => "AddressFamily.INET"
  | .inet6 => "AddressFamily.INET6"

def message : Event → String
  | .badPort line word =>
      "Skipping services line " ++ toString line ++ ": bad port " ++ Text.quote word
  | .servicesLoaded names path =>
      "Loaded " ++ toString names ++ " service names from " ++ path
  | .resolving name => "Resolving " ++ name
  | .resolved name addresses =>
      "Resolved " ++ name ++ " to " ++ String.intercalate ", " (addresses.map Address.ipText)
  | .dropped conflict => "Dropping rule instance: " ++ conflict.message
  | .filtered family restriction =>
      "Filtering " ++ familyName family ++ " rule outside " ++ familyName restriction ++ " scope"
  | .thinned intent kept mixed outside =>
      "Intent " ++ toString intent ++ ": " ++ toString kept ++ " rule(s) kept, "
        ++ toString mixed ++ " dropped, " ++ toString outside ++ " filtered"
  | .compiling host intents => "Compiling " ++ host ++ " (" ++ toString intents ++ " intents)"
  | .compiled host rules => "Compiled " ++ host ++ ": " ++ toString rules ++ " rule(s)"
  | .defaultOnly host message => "[" ++ host ++ "] " ++ message
  | .emitting natRules filterRules =>
      "Emitting ruleset: " ++ toString natRules ++ " nat rule(s), " ++ toString filterRules
        ++ " filter rule(s)"
  | .reported _ text => text
  | .summary line => line.text
  | .loadingPolicy path => "Loading policy from " ++ path
  | .loadFailed reason => "Failed to load policy: " ++ reason
  | .printing host => "Ruleset for " ++ host ++ " follows on stdout"
  | .wrote path => "Wrote " ++ path
  | .hostsFailed hosts => "Compilation failed for: " ++ String.intercalate ", " hosts

/-- What the log says of an event. -/
def line (event : Event) : String :=
  "[" ++ event.level.name ++ "] " ++ event.component.name ++ ": " ++ event.message

end Event

end Firewall
